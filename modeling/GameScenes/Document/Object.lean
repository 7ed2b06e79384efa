import GameScenes.Document.Placement
import GameScenes.Text.Case

/-!
# Game objects in documents

An object has a transform and, as far as the document asks for them, a sprite, physics and
behaviors.  Words for kinds are read leniently: letter case does not matter and an unknown word
means the usual kind.
-/

set_option autoImplicit false

namespace GameScenes.Document

open Json Json.Decoder

/-- Where an object stands in the space of its parent. -/
structure Transform where
  position : Vector3
  rotation : Option Rotation
  scale : Vector3

namespace Transform

def blank : Transform := ⟨Vector3.zero, none, Vector3.one⟩

def decode : Decoder Transform :=
  record "TransformSpec"
    [.of "position" vector3 fun position t => { t with position },
      .of "rotation" (optional Rotation.decode) fun rotation t => { t with rotation },
      .of "scale" Document.scale fun scale t => { t with scale }]
    blank

end Transform

structure Sprite where
  path : Option String
  pixelsPerUnit : Option Float32
  sortingLayer : Option String
  orderInLayer : Int
  color : Option String

namespace Sprite

/-- A sprite without a picture. -/
def blank : Sprite := ⟨none, none, none, 0, none⟩

def decode : Decoder Sprite :=
  record "SpriteSpec"
    [.of "path" (optional text) fun path s => { s with path },
      .of "pixelsPerUnit" (optional single) fun pixelsPerUnit s => { s with pixelsPerUnit },
      .of "sortingLayer" (optional text) fun sortingLayer s => { s with sortingLayer },
      (RecordField.of "orderInLayer" signedWord
        fun orderInLayer s => { s with orderInLayer }).orElse ["order"],
      .of "color" (optional text) fun color s => { s with color }]
    blank

end Sprite

/-- How a body takes part in the physics. -/
inductive BodyKind where
  | dynamic
  | kinematic
  | static
  deriving DecidableEq, Repr

def BodyKind.ofWord (word : String) : BodyKind :=
  let lowered := Text.lower word
  if lowered = "kinematic" then .kinematic
  else if lowered = "static" then .static
  else .dynamic

def BodyKind.name : BodyKind → String
  | dynamic => "Dynamic"
  | kinematic => "Kinematic"
  | static => "Static"

structure Rigidbody where
  bodyType : BodyKind
  gravityScale : Float32
  freezeRotation : Bool
  constraints : List String

namespace Rigidbody

/-- A body that falls. -/
def blank : Rigidbody := ⟨.dynamic, 1, false, []⟩

def decode : Decoder Rigidbody :=
  record "RigidbodySpec"
    [.of "bodyType" (mapped text BodyKind.ofWord) fun bodyType b => { b with bodyType },
      .of "gravityScale" single fun gravityScale b => { b with gravityScale },
      .of "freezeRotation" flag fun freezeRotation b => { b with freezeRotation },
      .of "constraints" (list text) fun constraints b => { b with constraints }]
    blank

end Rigidbody

inductive ColliderKind where
  | box
  | circle
  | polygon
  deriving DecidableEq, Repr

/-- The form that a word mentions. -/
def ColliderKind.ofWord (word : String) : ColliderKind :=
  let lowered := Text.lower word
  if Text.mentions lowered "circle" then .circle
  else if Text.mentions lowered "poly" then .polygon
  else .box

structure Collider where
  kind : ColliderKind
  autoSize : Bool
  size : Option Vector2
  radius : Option Float32
  offset : Vector2
  isTrigger : Bool
  points : List Vector2

namespace Collider

/-- A box that follows the picture. -/
def blank : Collider := ⟨.box, true, none, none, Vector2.zero, false, []⟩

def decode : Decoder Collider :=
  record "ColliderSpec"
    [(RecordField.of "type" (mapped text ColliderKind.ofWord) fun kind c => { c with kind }).orElse
        ["kind"],
      .of "autoSize" flag fun autoSize c => { c with autoSize },
      .of "size" (optional vector2) fun size c => { c with size },
      .of "radius" (optional single) fun radius c => { c with radius },
      .of "offset" vector2 fun offset c => { c with offset },
      .of "isTrigger" flag fun isTrigger c => { c with isTrigger },
      .of "points" (list vector2) fun points c => { c with points }]
    blank

end Collider

/-- The body and the colliders of an object. -/
structure Physics where
  rigidbody : Option Rigidbody
  colliders : List Collider
  collider : Option Collider

namespace Physics

def blank : Physics := ⟨none, [], none⟩

def decode : Decoder Physics :=
  record "PhysicsSpec"
    [.of "rigidbody" (optional Rigidbody.decode) fun rigidbody p => { p with rigidbody },
      .of "colliders" (list Collider.decode) fun colliders p => { p with colliders },
      .of "collider" (optional Collider.decode) fun collider p => { p with collider }]
    blank

/-- All colliders, the single one first. -/
def allColliders (p : Physics) : List Collider := p.collider.toList ++ p.colliders

end Physics

/-- A behavior that a document attaches, with its parameters in ascending order of their names. -/
structure Binding where
  name : String
  parameters : List (String × Json)

namespace Binding

/-- A behavior without a name. -/
def blank : Binding := ⟨"", []⟩

/-- A behavior with its parameters. -/
def decode : Decoder Binding :=
  record "BehaviorBindingSpec"
    [.of "name" text fun name b => { b with name },
      .of "parameters" (dictionary value) fun parameters b => { b with parameters }]
    blank

end Binding

/-- The name that an element of a document is shown by: its name or else its identifier, unless
that is blank. -/
def displayName (name id : Option String) (usual : String) : String :=
  match name.or id with
  | none => usual
  | some s => if Text.isBlankText s then usual else s

structure Object where
  id : Option String
  name : Option String
  tag : Option String
  layer : Option String
  parent : Option Hint
  transform : Transform
  sprite : Option Sprite
  physics : Option Physics
  scripts : List Binding

namespace Object

/-- An object that says nothing. -/
def blank : Object := ⟨none, none, none, none, none, Transform.blank, none, none, []⟩

def decode : Decoder Object :=
  record "EntitySpec"
    [.of "id" (optional text) fun id o => { o with id },
      .of "name" (optional text) fun name o => { o with name },
      .of "tag" (optional text) fun tag o => { o with tag },
      .of "layer" (optional text) fun layer o => { o with layer },
      .of "parent" (optional Hint.decode) fun parent o => { o with parent },
      .of "transform" Transform.decode fun transform o => { o with transform },
      .of "sprite" (optional Sprite.decode) fun sprite o => { o with sprite },
      .of "physics" (optional Physics.decode) fun physics o => { o with physics },
      (RecordField.of "scripts" (list Binding.decode) fun scripts o => { o with scripts }).orElse
        ["behaviors"]]
    blank

def displayName (o : Object) : String := Document.displayName o.name o.id "GameObject"

end Object

end GameScenes.Document
