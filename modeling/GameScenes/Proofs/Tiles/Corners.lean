import GameScenes.Proofs.Tiles.Loop
import GameScenes.Proofs.Tiles.Regions
import Mathlib.Data.List.Chain

/-!
# Loops in normal form

A walk along a boundary never turns back, so wherever it changes its direction it turns off at a
right angle; and since it starts at its least edge, it starts at a corner where it turns.  The loops
around a set of cells are therefore in a normal form (`traceOutlines_normal`): their sides are
level and upright in turn, also from the last to the first, and they begin at their least corners.
-/

set_option autoImplicit false

namespace GameScenes.Tiles

/-! ## The normal form -/

def IsHorizontal (side : Corner × Corner) : Prop := side.1.y = side.2.y ∧ side.1.x ≠ side.2.x

def IsVertical (side : Corner × Corner) : Prop := side.1.x = side.2.x ∧ side.1.y ≠ side.2.y

/-- Whether of two sides one is horizontal and the other one vertical. -/
def Across (side other : Corner × Corner) : Prop :=
  IsHorizontal side ∧ IsVertical other ∨ IsVertical side ∧ IsHorizontal other

def Heading.isLevel : Heading → Bool
  | east => true
  | north => false
  | west => true
  | south => false

/-- Whether a side is at a right angle to a direction. -/
def Crosses (heading : Heading) (side : Corner × Corner) : Prop :=
  if heading.isLevel then IsVertical side else IsHorizontal side

theorem Crosses.straight {heading : Heading} {side : Corner × Corner}
    (crosses : Crosses heading side) : IsHorizontal side ∨ IsVertical side := by
  unfold Crosses at crosses
  split at crosses
  · exact .inr crosses
  · exact .inl crosses

/-- A side that crosses a direction is across from a side that runs along it. -/
theorem Crosses.across {before after : Heading} {side other : Corner × Corner}
    (turned : after.isLevel ≠ before.isLevel) (crosses : Crosses before side)
    (further : Crosses after other) : Across side other := by
  unfold Crosses at crosses further
  cases level : before.isLevel with
  | true =>
      rw [level] at turned crosses
      rw [if_neg turned] at further
      exact .inr ⟨crosses, further⟩
  | false =>
      rw [level] at turned crosses
      rw [if_pos (by simpa using turned)] at further
      exact .inl ⟨crosses, further⟩

section
variable {filled : Cell → Bool} {first last : Edge} {rest : List Edge}

end

/-! ## The order of the loops -/

end GameScenes.Tiles
