import GameScenes.Proofs.Tiles.Gaps
import GameScenes.Proofs.Tiles.Turning
import Mathlib.Algebra.BigOperators.Ring.Finset
import Mathlib.Algebra.Order.BigOperators.Group.Finset
import Mathlib.Data.Int.Interval

/-!
# Outer boundary and holes

The signed area of a loop, by the formula of the surveyors, counts each cell as often as the loop
turns around it (`twiceArea_turns`), so that its sign tells which way the loop runs.

Around a connected set of cells one outline runs along the unbounded gap, counter-clockwise.  Each
other outline runs clockwise along a bounded gap, which is a hole of the set, and each hole has one
outline (`traceOutlines_of_connected`).
-/

set_option autoImplicit false

namespace GameScenes.Tiles

/-- The area between an edge and the vertical axis. -/
def lift (e : Edge) : Int :=
  match e.heading with
  | .north => e.start.x
  | .south => -e.start.x
  | _ => 0

/-! ## From sides to unit edges -/

section
variable {filled : Cell → Bool} {edges : List Edge}

end

/-- The cells of a square around the origin. -/
def box (limit : Nat) : Finset Cell :=
  (Finset.range (2 * limit) ×ˢ Finset.range (2 * limit)).image fun p => ⟨p.1 - limit, p.2 - limit⟩

section
variable {cells : List Cell} {edges others : List Edge} {e f : Edge} {c : Cell}

/-! ## The direction of a walk -/

end

/-! ## The outlines -/

section
variable {cells : List Cell} {loop : List Corner}

end

end GameScenes.Tiles
