import GameScenes.Geometry.Vector

/-!
# Bounds

A rectangle with sides along the axes, given by its least and its greatest corner.
-/

set_option autoImplicit false

namespace GameScenes

/-- A rectangle with sides along the axes. -/
structure Bounds where
  min : Vector2
  max : Vector2
  deriving Inhabited

namespace Bounds

open GameScenes.Geometry

/-- The rectangle of a size around a center; a negative extent counts as its magnitude. -/
def ofCenterSize (center size : Vector2) : Bounds :=
  let half : Vector2 := ⟨size.x.abs * 0.5, size.y.abs * 0.5⟩
  ⟨center - half, center + half⟩

/-- The rectangle grown to hold a point. -/
def withPoint (b : Bounds) (p : Vector2) : Bounds :=
  ⟨⟨smaller b.min.x p.x, smaller b.min.y p.y⟩, ⟨greater b.max.x p.x, greater b.max.y p.y⟩⟩

/-- The least rectangle that holds all points; no points have none. -/
def ofPoints? : List Vector2 → Option Bounds
  | [] => none
  | p :: ps => some (ps.foldl withPoint ⟨p, p⟩)

def size (b : Bounds) : Vector2 := b.max - b.min

/-- The point in the middle. -/
def center (b : Bounds) : Vector2 :=
  ⟨(b.min.x + b.max.x) * 0.5, (b.min.y + b.max.y) * 0.5⟩

def halfExtents (b : Bounds) : Vector2 := ⟨b.size.x * 0.5, b.size.y * 0.5⟩

/-- The corners, counter-clockwise from the least one. -/
def corners (b : Bounds) : List Vector2 :=
  [b.min, ⟨b.max.x, b.min.y⟩, b.max, ⟨b.min.x, b.max.y⟩]

/-- The least rectangle that holds two rectangles. -/
def union (a b : Bounds) : Bounds :=
  ⟨⟨smaller a.min.x b.min.x, smaller a.min.y b.min.y⟩,
    ⟨greater a.max.x b.max.x, greater a.max.y b.max.y⟩⟩

/-- Whether a vertical line meets the rectangle. -/
def spansX (b : Bounds) (x : Float32) : Bool :=
  b.min.x ≤ x && x ≤ b.max.x

end Bounds

end GameScenes
