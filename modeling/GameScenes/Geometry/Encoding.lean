import GameScenes.Geometry.Pose
import GameScenes.Json.Encoder

/-!
# Geometry as Json
-/

set_option autoImplicit false

namespace GameScenes

open Json

/-- A vector of the plane as an object. -/
def Vector2.toJson (v : Vector2) : Json :=
  .object [("x", ofSingle v.x), ("y", ofSingle v.y)]

/-- A vector of space as an object. -/
def Vector3.toJson (v : Vector3) : Json :=
  .object [("x", ofSingle v.x), ("y", ofSingle v.y), ("z", ofSingle v.z)]

def Bounds.toJson (b : Bounds) : Json :=
  .object [("min", b.min.toJson), ("max", b.max.toJson)]

def Pose.toJson (p : Pose) : Json :=
  .object
    [("translation", p.translation.toJson), ("rotation_degrees", ofSingle p.rotation),
      ("scale", p.scale.toJson)]

end GameScenes
