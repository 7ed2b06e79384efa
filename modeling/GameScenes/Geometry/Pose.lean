import GameScenes.Geometry.Bounds

/-!
# Poses

A pose places something in the space of its parent: it is scaled, turned and then moved.  Poses
compose component by component, so a parent with different scales along its axes does not shear a
turned child.
-/

set_option autoImplicit false

namespace GameScenes

/-- A scale, a turn in degrees and a translation, applied in this order. -/
structure Pose where
  translation : Vector2
  rotation : Float32
  scale : Vector2
  deriving Inhabited

namespace Pose

/-- The pose that changes nothing. -/
def identity : Pose := ⟨Vector2.zero, 0, Vector2.one⟩

/-- A displacement in the space of the parent. -/
def applyVector (p : Pose) (v : Vector2) : Vector2 :=
  (v.scaled p.scale).rotated p.rotation

/-- A point in the space of the parent. -/
def applyPoint (p : Pose) (v : Vector2) : Vector2 :=
  p.applyVector v + p.translation

/-- A displacement of the parent's space in the own space. -/
def pullVector (p : Pose) (v : Vector2) : Vector2 :=
  let turned := v.rotated (-p.rotation)
  ⟨Geometry.quotient turned.x p.scale.x, Geometry.quotient turned.y p.scale.y⟩

/-- The pose of a child in the space of the parent's parent. -/
def andThen (p child : Pose) : Pose :=
  ⟨p.applyPoint child.translation, p.rotation + child.rotation, p.scale.scaled child.scale⟩

/-- The least bounds that hold a rectangle once it is placed. -/
def applyBounds (p : Pose) (b : Bounds) : Bounds :=
  (Bounds.ofPoints? (b.corners.map p.applyPoint)).getD b

end Pose

end GameScenes
