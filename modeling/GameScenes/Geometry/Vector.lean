import GameScenes.Geometry.Scalar

/-!
# Vectors of the plane and of space
-/

set_option autoImplicit false

namespace GameScenes

structure Vector2 where
  x : Float32
  y : Float32
  deriving Inhabited

structure Vector3 where
  x : Float32
  y : Float32
  z : Float32
  deriving Inhabited

namespace Vector2

/-- The vector without length. -/
def zero : Vector2 := ⟨0, 0⟩

/-- The vector with both components one. -/
def one : Vector2 := ⟨1, 1⟩

instance : Add Vector2 := ⟨fun a b => ⟨a.x + b.x, a.y + b.y⟩⟩

instance : Sub Vector2 := ⟨fun a b => ⟨a.x - b.x, a.y - b.y⟩⟩

/-- A vector with each component times the component of another. -/
def scaled (a factor : Vector2) : Vector2 := ⟨a.x * factor.x, a.y * factor.y⟩

/-- A vector turned counter-clockwise about the origin; an angle of zero leaves it as it is. -/
def rotated (a : Vector2) (degrees : Float32) : Vector2 :=
  if degrees == 0 then a
  else
    let sin := (Geometry.radians degrees).sin
    let cos := (Geometry.radians degrees).cos
    ⟨a.x * cos - a.y * sin, a.x * sin + a.y * cos⟩

end Vector2

namespace Vector3

/-- The vector without length. -/
def zero : Vector3 := ⟨0, 0, 0⟩

def one : Vector3 := ⟨1, 1, 1⟩

/-- The components in the plane. -/
def xy (a : Vector3) : Vector2 := ⟨a.x, a.y⟩

end Vector3

end GameScenes
