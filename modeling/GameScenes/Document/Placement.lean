import GameScenes.Geometry.Vector
import GameScenes.Json.Decoder
import GameScenes.Text.Blank

/-!
# Vectors, rotations and references in documents

Components of a vector that a document leaves out have a default of their own kind: zero for
positions and sizes, one for scales.
-/

set_option autoImplicit false

namespace GameScenes.Document

open Json Json.Decoder

def planeFields : List (RecordField Vector2) :=
  [.of "x" single fun x v => { v with x }, .of "y" single fun y v => { v with y }]

def spaceFields : List (RecordField Vector3) :=
  [.of "x" single fun x v => { v with x }, .of "y" single fun y v => { v with y },
    .of "z" single fun z v => { v with z }]

def vector2 : Decoder Vector2 := record "Vec2Spec" planeFields Vector2.zero

def vector3 : Decoder Vector3 := record "Vec3Spec" spaceFields Vector3.zero

def scale : Decoder Vector3 := record "ScaleSpec" spaceFields Vector3.one

/-- A rotation about the z axis, as an angle or as an object with the angle. -/
inductive Rotation where
  | degrees (z : Float32)
  | euler (z : Float32)

namespace Rotation

def angle : Rotation → Float32
  | degrees z => z
  | euler z => z

/-- A number, or an object with or without the key `z`. -/
def decode : Decoder Rotation := fun j =>
  match single j with
  | .ok z => .ok (degrees z)
  | .error _ =>
      match j with
      | .object ms =>
          match ms.lookup "z" with
          | none => .ok (euler 0)
          | some component =>
              match single component with
              | .ok z => .ok (euler z)
              | .error _ => fail (.noForm "RotationSpec")
      | _ => fail (.noForm "RotationSpec")

end Rotation

/-- Names by which an entity may be looked up; each is one way of looking. -/
structure Reference where
  path : Option String
  childName : Option String
  globalName : Option String
  tag : Option String
  deriving DecidableEq

namespace Reference

/-- A reference without names. -/
def blank : Reference := ⟨none, none, none, none⟩

/-- Whether a reference names nothing. -/
def isEmpty (r : Reference) : Bool :=
  r.path.isNone && r.childName.isNone && r.globalName.isNone && r.tag.isNone

def fields : List (RecordField Reference) :=
  [.of "path" (optional text) fun path r => { r with path },
    (RecordField.of "childName" (optional text) fun childName r => { r with childName }).orElse
      ["child"],
    (RecordField.of "globalName" (optional text) fun globalName r => { r with globalName }).orElse
      ["name", "global"],
    .of "tag" (optional text) fun tag r => { r with tag }]

/-- A reference with its names as messages show it. -/
def shown (r : Reference) : String :=
  "StructuredReference \x7b path: " ++ Text.quoteOption r.path ++ ", child_name: " ++
    Text.quoteOption r.childName ++ ", global_name: " ++ Text.quoteOption r.globalName ++
    ", tag: " ++ Text.quoteOption r.tag ++ " \x7d"

end Reference

/-- How a document points at another entity: by one text that is tried in every way, or by a
reference. -/
inductive Hint where
  | text (name : String)
  | structured (reference : Reference)
  deriving DecidableEq

namespace Hint

/-- A text, or whatever decodes as a reference. -/
def decode : Decoder Hint
  | .text s => .ok (text s)
  | j =>
      match record "StructuredReference" Reference.fields Reference.blank j with
      | .ok r => .ok (structured r)
      | .error _ => fail (.noForm "ReferenceHint")

/-- Whether a hint points at nothing. -/
def isBlank : Hint → Bool
  | text s => Text.isBlankText s
  | structured r => r.isEmpty

/-- A hint as messages show it. -/
def shown : Hint → String
  | text s => "Text(" ++ Text.quote s ++ ")"
  | structured r => "Structured(" ++ r.shown ++ ")"

end Hint

end GameScenes.Document
