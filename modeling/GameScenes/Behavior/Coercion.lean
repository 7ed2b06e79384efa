import GameScenes.Number.Numeral
import GameScenes.Project.Tables
import GameScenes.Scene.Reference

/-!
# Coercing parameters

A document writes the value of a field in Json; coercion turns it into a value of the type of the
field.  Numbers may be given as text, vectors as objects or arrays, layer masks by the names of
layers, and entities by references.
-/

set_option autoImplicit false

namespace GameScenes.Behavior

open Document (Hint)
open Scene (Graph)

/-- Why a value does not become a value of a field. -/
inductive CoercionFault where
  | notConvertible (raw : Json) (wanted : String)
  | lacksComponent (entity : String) (kind : ComponentKind)
  | unresolved (raw : Json)
  | unknownLayer (layer : String)

def CoercionFault.message : CoercionFault → String
  | notConvertible raw wanted => "cannot convert " ++ raw.compact ++ " to " ++ wanted
  | lacksComponent entity kind => "entity '" ++ entity ++ "' has no " ++ kind.name ++ " component"
  | unresolved raw => "no entity matches " ++ raw.compact
  | unknownLayer layer => "layer '" ++ layer ++ "' is not registered"

/-! ## Numbers -/

/-- A whole number of 64 bits as it is, of a larger one the end of the range. -/
def clampInt64 (n : Int) : Int := max Number.minInt64 (min n Number.maxInt64)

def wholeOfDouble? (x : Float) : Option Int := (Number.ofDouble? x).bind Number.Dyadic.toInt?

def doubleOfNumber : JsonNumber → Float
  | .int n =>
      let magnitude := (UInt64.ofNat n.natAbs).toFloat
      if n < 0 then -magnitude else magnitude
  | .float x => x
  | .single x => x.toFloat

/-- The whole number of 64 bits that a value is or writes. -/
def asInt? : Json → Option Int
  | .number (.int n) => if Number.minInt64 ≤ n ∧ n ≤ Number.maxInt64 then some n else none
  | .number float =>
      (wholeOfDouble? (doubleOfNumber float)).filter fun n =>
        Number.minInt64 < n && n ≤ Number.maxInt64
  | .text s =>
      let trimmed := Text.trim s
      (Number.readInt? trimmed).or
        (((Number.readFloat? trimmed).bind wholeOfDouble?).map clampInt64)
  | _ => none

/-- The finite double that a value is or writes. -/
def asFloat? (j : Json) : Option Float :=
  let value := match j with
    | .number n => some (doubleOfNumber n)
    | .text s => Number.readFloat? (Text.trim s)
    | _ => none
  value.filter Float.isFinite

/-- The truth value that a value is or writes. -/
def asBool? : Json → Option Bool
  | .bool b => some b
  | .number (.int n) => if n = 0 then some false else if n = 1 then some true else none
  | .text s =>
      let word := Text.lower (Text.trim s)
      if ["true", "yes", "on", "1"].contains word then some true
      else if ["false", "no", "off", "0"].contains word then some false
      else none
  | _ => none

/-- The text that a value is or writes. -/
def asText? : Json → Option String
  | .text s => some s
  | .number n => some (Json.number n).compact
  | .bool b => some (Json.bool b).compact
  | _ => none

/-! ## Vectors -/

/-- A component of a vector, which may be missing; nothing when it is no number. -/
def component? : Option Json → Option (Option Float32)
  | none => some none
  | some .null => some none
  | some j => (asFloat? j).map fun x => some (Number.narrow x)

/-- The components of a vector as a value holds them. -/
def rawComponents? : Json → Option (Option Json × Option Json × Option Json)
  | .object ms => some (ms.lookup "x", ms.lookup "y", ms.lookup "z")
  | .array [x, y] => some (some x, some y, none)
  | .array [x, y, z] => some (some x, some y, some z)
  | _ => none

/-- The components of a vector, of which only the last may be missing. -/
def vectorParts? (j : Json) : Option (Float32 × Float32 × Option Float32) :=
  match rawComponents? j with
  | none => none
  | some (rawX, rawY, rawZ) =>
      match component? rawX, component? rawY, component? rawZ with
      | some (some x), some (some y), some z => some (x, y, z)
      | _, _, _ => none

/-- A vector of the plane, which has no third component. -/
def asVector2? (j : Json) : Option Vector2 :=
  match vectorParts? j with
  | some (x, y, none) => some ⟨x, y⟩
  | _ => none

def asVector3? (j : Json) : Option Vector3 :=
  (vectorParts? j).map fun (x, y, z) => ⟨x, y, z.getD 0⟩

/-! ## Layer masks -/

def maskOfName (layers : LayerTable) (raw : String) : Except CoercionFault UInt32 :=
  let name := Text.trim raw
  match layers.maskFor? name with
  | some mask => .ok mask
  | none => .error (.unknownLayer name)

/-- The mask of all named layers, together with `mask`. -/
def maskOfNames (layers : LayerTable) (mask : UInt32) : List Json → Except CoercionFault UInt32
  | [] => .ok mask
  | .text name :: rest =>
      match maskOfName layers name with
      | .error fault => .error fault
      | .ok next => maskOfNames layers (mask ||| next) rest
  | other :: _ => .error (.notConvertible other "layer name")

/-- A layer mask: a number, the name of a layer, or several names. -/
def asLayerMask (layers : LayerTable) : Json → Except CoercionFault UInt32
  | .number (.int n) =>
      if 0 ≤ n ∧ n < 4294967296 then .ok (UInt32.ofNat n.toNat)
      else .error (.notConvertible (.number (.int n)) "layer mask")
  | .text name => maskOfName layers name
  | .array items => maskOfNames layers 0 items
  | other => .error (.notConvertible other "layer mask")

/-! ## Entities -/

/-- The entity that a value refers to. -/
def asEntity (graph : Graph) (context : Option EntityId) (j : Json) :
    Except CoercionFault EntityId :=
  match Hint.decode j with
  | .error _ => .error (.notConvertible j "entity reference")
  | .ok hint =>
      match graph.resolve? context hint with
      | some resolution => .ok resolution.entity
      | none => .error (.unresolved j)

def hasComponent (graph : Graph) (id : EntityId) (kind : ComponentKind) : Bool :=
  match graph.get? id with
  | none => false
  | some entity =>
      match kind with
      | .transform => true
      | .body => entity.components.body.isSome
      | .visual => entity.components.visual.isSome
      | .collider => !entity.components.colliders.isEmpty
      | .ui => entity.components.ui.isSome

/-- The component of the entity that a value refers to. -/
def asComponent (graph : Graph) (context : Option EntityId) (kind : ComponentKind) (j : Json) :
    Except CoercionFault FieldValue :=
  match asEntity graph context j with
  | .error fault => .error fault
  | .ok id =>
      if hasComponent graph id kind then .ok (.component id kind)
      else
        let name := match graph.get? id with
          | some entity => entity.name
          | none => "?"
        .error (.lacksComponent name kind)

/-! ## All types -/

/-- A result that may be missing, with the fault that it is then. -/
def orNotConvertible {α : Type} (j : Json) (wanted : String) (wrap : α → FieldValue) :
    Option α → Except CoercionFault FieldValue
  | some a => .ok (wrap a)
  | none => .error (.notConvertible j wanted)

/-- The value of a type that a document writes; references start at `context`. -/
def coerce (graph : Graph) (layers : LayerTable) (context : Option EntityId) (kind : FieldKind)
    (j : Json) : Except CoercionFault FieldValue :=
  match kind with
  | .int => orNotConvertible j "int" .int (asInt? j)
  | .float => orNotConvertible j "float" .float (asFloat? j)
  | .bool => orNotConvertible j "bool" .bool (asBool? j)
  | .text => orNotConvertible j "text" .text (asText? j)
  | .vector2 => orNotConvertible j "vector2" .vector2 (asVector2? j)
  | .vector3 => orNotConvertible j "vector3" .vector3 (asVector3? j)
  | .color => orNotConvertible j "color" .color (j.text?.bind Color.ofText?)
  | .layerMask => (asLayerMask layers j).map .layerMask
  | .entity => (asEntity graph context j).map .entity
  | .component kind => asComponent graph context kind j

end GameScenes.Behavior
