import GameScenes.Behavior.Instance
import GameScenes.Document.Interface
import GameScenes.Geometry.Pose
import GameScenes.Tiles.Layer

/-!
# Components of entities

What an entity carries besides its place in the scene.  A component that a document does not ask
for is missing.
-/

set_option autoImplicit false

namespace GameScenes.Scene

open Behavior (FieldValue Instance)
open Document (BodyKind CanvasMode ElementKind RectTransform)

/-- Where an entity stands in the space of its parent. -/
structure LocalTransform where
  position : Vector3
  rotation : Float32
  scale : Vector3

namespace LocalTransform

/-- The place of a new entity. -/
def identity : LocalTransform := ⟨Vector3.zero, 0, Vector3.one⟩

def pose (t : LocalTransform) : Pose := ⟨t.position.xy, t.rotation, t.scale.xy⟩

end LocalTransform

/-- A picture of an entity. -/
structure Visual where
  assetPath : String
  pixelSize : UInt32 × UInt32
  pixelsPerUnit : Float32
  sortingLayer : String
  orderInLayer : Int
  color : Color
  /-- The extent in the entity's own space, without its scale. -/
  localBounds : Bounds

/-- A body that takes part in the physics. -/
structure Body where
  kind : BodyKind
  gravityScale : Float32
  freezeRotation : Bool
  freezePositionX : Bool
  freezePositionY : Bool

/-- A body that never moves. -/
def Body.fixed : Body := ⟨.static, 0, true, false, false⟩

/-- The form of a collider. -/
inductive Shape where
  | box (size : Vector2)
  | circle (radius : Float32)
  | polygon (points : List Vector2)

/-- The size of a box that nothing determines. -/
def usualBoxSize : Vector2 := Vector2.one

/-- The radius of a circle that nothing determines. -/
def usualRadius : Float32 := 0.5

/-- Something that other bodies collide with. -/
structure Collider where
  shape : Shape
  offset : Vector2
  isTrigger : Bool

/-- The extent of a collider in the entity's own space. -/
def Collider.localBounds (c : Collider) : Bounds :=
  match c.shape with
  | .box size => Bounds.ofCenterSize c.offset size
  | .circle radius =>
      Bounds.ofCenterSize c.offset ⟨radius.abs * 2, radius.abs * 2⟩
  | .polygon points =>
      (Bounds.ofPoints? (points.map (· + c.offset))).getD
        (Bounds.ofCenterSize c.offset Vector2.zero)

structure Camera where
  orthographic : Bool
  size : Float32
  clearColor : Option Color
  primary : Bool

/-- The root of the user interface. -/
structure Canvas where
  mode : CanvasMode
  referenceResolution : Vector2

/-- What a button does: a command with its arguments in ascending order of their names. -/
structure ButtonAction where
  command : String
  args : List (String × FieldValue)

/-- An element of the user interface. -/
structure Widget where
  kind : ElementKind
  rect : RectTransform
  text : Option String
  fontSize : Float32
  color : Color
  sprite : Option String
  onClick : Option ButtonAction

/-- Everything that an entity carries. -/
structure Components where
  visual : Option Visual
  body : Option Body
  colliders : List Collider
  behaviors : List Instance
  camera : Option Camera
  canvas : Option Canvas
  eventSystem : Bool
  ui : Option Widget
  tileLayer : Option Tiles.TileLayer

/-- The components of a new entity. -/
def Components.none : Components :=
  { visual := .none, body := .none, colliders := [], behaviors := [], camera := .none,
    canvas := .none, eventSystem := false, ui := .none, tileLayer := .none }

end GameScenes.Scene
