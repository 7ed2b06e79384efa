import GameScenes.Build.Context

/-!
# Building entities

An object of a document becomes one entity with everything attached to it.  A fault in one of its
features is recorded and the rest is still built.
-/

set_option autoImplicit false

namespace GameScenes.Build

open Document (Rigidbody Sprite)
open Scene (Body Collider Graph LocalTransform Shape Visual)

/-! ## Parts of an entity -/

/-- A text without the blanks around it, unless nothing remains. -/
def nonBlank? (raw : Option String) : Option String :=
  raw.filter fun s => !Text.isBlankText s

/-- The picture of an object; nothing when it has no path or its asset cannot be used. -/
def buildVisual (ctx : Context) (sprite : Sprite) (subject : String) :
    Context × Option Visual :=
  match nonBlank? sprite.path with
  | none => (ctx, none)
  | some path =>
      match ctx.importAsset path subject "sprite.path" with
      | (ctx, none) => (ctx, none)
      | (ctx, some asset) =>
          let pixelsPerUnit :=
            (sprite.pixelsPerUnit.filter Geometry.isPositive).getD ctx.pixelsPerUnit
          let (ctx, color) := ctx.readColor sprite.color subject "sprite.color"
          let (ctx, sortingLayer) := ctx.registerSortingLayer (sprite.sortingLayer.getD "")
          let size : Vector2 :=
            ⟨asset.pixelSize.1.toFloat32 / pixelsPerUnit,
              asset.pixelSize.2.toFloat32 / pixelsPerUnit⟩
          (ctx, some
            { assetPath := asset.canonicalPath
              pixelSize := asset.pixelSize
              pixelsPerUnit
              sortingLayer
              orderInLayer := sprite.orderInLayer
              color
              localBounds := Bounds.ofCenterSize Vector2.zero size })

/-- A constraint as it is compared: small letters without blanks and underscores. -/
def constraintWord (constraint : String) : String :=
  String.ofList ((Text.lower constraint).toList.filter fun c => c ≠ '_' && c ≠ ' ')

/-- A body under one more constraint; an unknown constraint changes nothing. -/
def constrain (body : Body) (constraint : String) : Body :=
  match constraintWord constraint with
  | "freezerotation" => { body with freezeRotation := true }
  | "freezerotationz" => { body with freezeRotation := true }
  | "freezepositionx" => { body with freezePositionX := true }
  | "freezepositiony" => { body with freezePositionY := true }
  | "freezeposition" => { body with freezePositionX := true, freezePositionY := true }
  | "freezeall" =>
      { body with freezeRotation := true, freezePositionX := true, freezePositionY := true }
  | _ => body

def buildBody (spec : Rigidbody) : Body :=
  spec.constraints.foldl constrain
    { kind := spec.bodyType
      gravityScale := spec.gravityScale
      freezeRotation := spec.freezeRotation
      freezePositionX := false
      freezePositionY := false }

/-- The extent that a collider follows where the document gives no size. -/
def measured? (spec : Document.Collider) (visual : Option Visual) : Option Bounds :=
  if spec.autoSize then visual.map (·.localBounds) else none

/-- The form of a collider: what the document gives, else the picture's extent, else the usual. -/
def buildShape (spec : Document.Collider) (measured : Option Bounds) : Shape :=
  match spec.kind with
  | .box => .box ((spec.size.or (measured.map (·.size))).getD Scene.usualBoxSize)
  | .circle =>
      let inscribed := measured.map fun b => Geometry.smaller b.halfExtents.x b.halfExtents.y
      .circle ((spec.radius.or inscribed).getD Scene.usualRadius)
  | .polygon =>
      if spec.points.isEmpty then
        .polygon ((measured.getD (Bounds.ofCenterSize Vector2.zero Scene.usualBoxSize)).corners)
      else .polygon spec.points

def buildCollider (visual : Option Visual) (spec : Document.Collider) : Collider :=
  ⟨buildShape spec (measured? spec visual), spec.offset, spec.isTrigger⟩

def buildTransform (spec : Document.Transform) : LocalTransform :=
  { position := spec.position
    rotation := (spec.rotation.map (·.angle)).getD 0
    scale := spec.scale }

/-! ## Entities -/

/-- The parent that an object names among the entities made so far; a parent that cannot be found
is a fault, and the object stays at the root. -/
def findParent (ctx : Context) (graph : Graph) (spec : Document.Object) (name : String) :
    Context × Option EntityId :=
  match spec.parent.filter fun hint => !hint.isBlank with
  | none => (ctx, none)
  | some hint =>
      match graph.resolve? none hint with
      | some resolution => (ctx, some resolution.entity)
      | none =>
          (ctx.record ((((Diagnostic.warning .unknownParent
            "parent does not match any earlier entity; placed at scene root").about name).inField
              "parent").withValue hint.shown), none)

/-- Puts the tag of an object into the table. -/
def registerTag? (ctx : Context) (raw : Option String) : Context × Option String :=
  match nonBlank? raw with
  | none => (ctx, none)
  | some tag =>
      let (ctx, tag) := ctx.registerTag tag
      (ctx, some tag)

/-- Puts the layer of an object into the table. -/
def registerLayer? (ctx : Context) (raw : Option String) (subject : String) :
    Context × Option Nat :=
  match nonBlank? raw with
  | none => (ctx, none)
  | some layer => ctx.registerLayer layer subject

/-- The picture of an object, if it has one. -/
def buildVisual? (ctx : Context) (sprite : Option Sprite) (subject : String) :
    Context × Option Visual :=
  match sprite with
  | none => (ctx, none)
  | some sprite => buildVisual ctx sprite subject

def buildEntity (ctx : Context) (graph : Graph) (spec : Document.Object) :
    Context × Graph × EntityId :=
  let name := Text.trim spec.displayName
  let (ctx, parent) := findParent ctx graph spec name
  let (graph, id) := graph.spawn name parent
  let (ctx, tag) := registerTag? ctx spec.tag
  let (ctx, layer) := registerLayer? ctx spec.layer name
  let (ctx, visual) := buildVisual? ctx spec.sprite name
  let graph := graph.modify id fun e =>
    { e with
      sourceId := (nonBlank? spec.id).map Text.trim
      transform := buildTransform spec.transform
      tag := tag.getD e.tag
      layer := layer.getD e.layer
      components := { e.components with
        visual
        body := (spec.physics.bind (·.rigidbody)).map buildBody
        colliders := (spec.physics.map fun p => p.allColliders.map (buildCollider visual)).getD
          [] } }
  let (graph, diagnostics) := Behavior.attach ctx.behaviors ctx.tables.layers graph id
    spec.scripts
  (ctx.recordAll diagnostics, graph, id)

end GameScenes.Build
