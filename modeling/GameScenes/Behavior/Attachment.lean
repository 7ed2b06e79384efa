import GameScenes.Behavior.Coercion
import GameScenes.Behavior.Index
import GameScenes.Report.Diagnostic

/-!
# Attaching behaviors

Every behavior that a document names is looked up, its parameters are bound to its fields, and
fields that are still without a value are wired by convention: masks of the ground, the place at
which an entity checks for ground, and its own body.  A fault leaves out only the behavior or the
parameter that it concerns.
-/

set_option autoImplicit false

namespace GameScenes.Behavior

open Document (Binding)
open Scene (Graph)

def groundLayerName : String := "Ground"

/-- The name of the child at which an entity checks for ground. -/
def groundCheckName : String := "GroundCheck"

/-- The gap between the bottom of a picture and the place below it. -/
def groundCheckMargin : Float32 := 0.05

/-- The height of the place for an entity without a picture. -/
def groundCheckHeight : Float32 := -0.6

/-! ## Explicit parameters -/

/-- The kind of fault that a failed coercion is. -/
def CoercionFault.code : CoercionFault → DiagnosticCode
  | notConvertible _ _ => .coercionFailed
  | lacksComponent _ _ => .coercionFailed
  | unresolved _ => .unresolvedReference
  | unknownLayer _ => .unknownLayer

/-- Where parameters are bound: what coercion needs, and the name of the entity. -/
structure BindingSite where
  graph : Graph
  layers : LayerTable
  entity : EntityId
  subject : String

/-- Binds one parameter to the field that it names: what becomes of the instance, and the fault. -/
def bindParameter (site : BindingSite) (descriptor : Descriptor) (i : Instance) (name : String)
    (raw : Json) : Instance × Option Diagnostic :=
  match descriptor.field? name with
  | none =>
      (i, some ((((Diagnostic.warning .unknownParameter
        ("behavior '" ++ descriptor.name ++ "' has no field '" ++ name ++ "'")).about
          site.subject).inField name).withValue raw.compact))
  | some schema =>
      if raw.isNull then (i, none)
      else
        let fault (code : DiagnosticCode) (message : String) : Diagnostic :=
          (((Diagnostic.warning code message).about site.subject).inField schema.name).withValue
            raw.compact
        match coerce site.graph site.layers (some site.entity) schema.kind raw with
        | .error cause => (i, some (fault cause.code cause.message))
        | .ok value =>
            let (bound, refusal) := descriptor.bind i schema value
            (bound, refusal.map (fault .coercionFailed))

/-- Binds the parameters of a document in their order. -/
def bindExplicit (site : BindingSite) (descriptor : Descriptor) (i : Instance) :
    List (String × Json) → Instance × List Diagnostic
  | [] => (i, [])
  | (name, raw) :: rest =>
      let (bound, fault) := bindParameter site descriptor i name raw
      let (last, faults) := bindExplicit site descriptor bound rest
      (last, fault.toList ++ faults)

/-! ## Conventions -/

/-- The first child of an entity that marks where it checks for ground. -/
def groundCheck? (graph : Graph) (entity : EntityId) : Option EntityId :=
  graph.childWhere? entity fun child => Text.sameLetters child.name groundCheckName

/-- The place of a new ground check: just below the picture. -/
def groundCheckPlace (graph : Graph) (entity : EntityId) : Vector2 :=
  match (graph.get? entity).bind (·.components.visual) with
  | some visual =>
      ⟨visual.localBounds.center.x, visual.localBounds.min.y - groundCheckMargin⟩
  | none => ⟨0, groundCheckHeight⟩

/-- The ground check of an entity, which is made if there is none. -/
def ensureGroundCheck (graph : Graph) (entity : EntityId) : Graph × EntityId :=
  match groundCheck? graph entity with
  | some existing => (graph, existing)
  | none =>
      let place := groundCheckPlace graph entity
      let (grown, anchor) := graph.spawn groundCheckName (some entity)
      (grown.modify anchor fun e =>
        { e with transform := { e.transform with position := ⟨place.x, place.y, 0⟩ } }, anchor)

/-- What a convention gives a field. -/
inductive Wiring where
  | value (value : FieldValue)
  | groundCheckEntity
  | groundCheckTransform
  | nothing

/-- The convention that a field follows. -/
def wiringOf (graph : Graph) (layers : LayerTable) (entity : EntityId) (schema : FieldSchema) :
    Wiring :=
  let lowered := Text.lower schema.name
  match schema.kind with
  | .layerMask =>
      if Text.mentions lowered "ground" then
        match layers.maskFor? groundLayerName with
        | some mask => .value (.layerMask mask)
        | none => .nothing
      else .nothing
  | .entity => if Text.mentions lowered "groundcheck" then .groundCheckEntity else .nothing
  | .component .transform =>
      if Text.mentions lowered "groundcheck" then .groundCheckTransform else .nothing
  | .component .body =>
      if hasComponent graph entity .body then .value (.component entity .body) else .nothing
  | _ => .nothing

/-- Gives one field the value of its convention unless it has a value. -/
def wireField (layers : LayerTable) (entity : EntityId) (state : Graph × Instance)
    (schema : FieldSchema) : Graph × Instance :=
  let (graph, i) := state
  if i.isSet schema.name then (graph, i)
  else
    match wiringOf graph layers entity schema with
    | .nothing => (graph, i)
    | .value value => (graph, i.set schema.name value .autoWired)
    | .groundCheckEntity =>
        let (grown, anchor) := ensureGroundCheck graph entity
        (grown, i.set schema.name (.entity anchor) .autoWired)
    | .groundCheckTransform =>
        let (grown, anchor) := ensureGroundCheck graph entity
        (grown, i.set schema.name (.component anchor .transform) .autoWired)

/-- Wires the fields of a behavior in the order of their declaration. -/
def autoWire (layers : LayerTable) (entity : EntityId) (descriptor : Descriptor)
    (graph : Graph) (i : Instance) : Graph × Instance :=
  descriptor.fields.foldl (wireField layers entity) (graph, i)

/-! ## Attaching -/

/-- The kind of fault that a failed lookup is. -/
def LookupFault.code : LookupFault → DiagnosticCode
  | unknown _ => .unknownBehavior
  | ambiguous _ _ => .ambiguousBehavior

def addInstance (graph : Graph) (entity : EntityId) (i : Instance) : Graph :=
  graph.modify entity fun e =>
    { e with components := { e.components with behaviors := e.components.behaviors ++ [i] } }

def attachOne (index : Index) (layers : LayerTable) (entity : EntityId) (subject : String)
    (graph : Graph) (binding : Binding) : Graph × List Diagnostic :=
  match index.lookup binding.name with
  | .error fault =>
      (graph, [((Diagnostic.warning fault.code fault.message).about subject).withValue
        binding.name])
  | .ok registered =>
      let descriptor := registered.descriptor
      let (bound, diagnostics) := bindExplicit ⟨graph, layers, entity, subject⟩ descriptor
        ⟨registered.module, descriptor.name, Dictionary.empty⟩ binding.parameters
      let (wired, i) := autoWire layers entity descriptor graph bound
      (addInstance wired entity i, diagnostics)

def attachEach (index : Index) (layers : LayerTable) (entity : EntityId) (subject : String) :
    Graph → List Binding → Graph × List Diagnostic
  | graph, [] => (graph, [])
  | graph, binding :: rest =>
      let (next, first) := attachOne index layers entity subject graph binding
      let (last, others) := attachEach index layers entity subject next rest
      (last, first ++ others)

/-- Attaches the behaviors that a document names to an entity. -/
def attach (index : Index) (layers : LayerTable) (graph : Graph) (entity : EntityId)
    (bindings : List Binding) : Graph × List Diagnostic :=
  let subject := match graph.get? entity with
    | some e => e.name
    | none => ""
  attachEach index layers entity subject graph bindings

end GameScenes.Behavior
