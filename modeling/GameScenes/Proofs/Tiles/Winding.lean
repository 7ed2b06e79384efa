import GameScenes.Proofs.Tiles.Loop
import Mathlib.Algebra.BigOperators.Group.Finset.Basic
import Mathlib.Algebra.BigOperators.Group.Finset.Piecewise
import Mathlib.Algebra.Ring.Int.Defs

/-!
# Outlines describe their cells

Cut into unit edges, the outlines of a set of cells run once through every edge between a cell of
the set and one outside of it.  Going around one cell turns once around that cell and around no
other; adding this up over all cells of the set, the edges between two of them cancel and the
outlines remain.  So the outlines turn once around every cell of the set and not at all around the
others (`traceOutlines_bounds_cells`).
-/

set_option autoImplicit false

namespace GameScenes.Tiles

/-- How an edge crosses the row of a cell to the right of the cell: northward, southward or not at
all. -/
def crossing (c : Cell) (e : Edge) : Int :=
  match e.heading with
  | .north => if e.start.y = c.y ∧ c.x < e.start.x then 1 else 0
  | .south => if e.start.y = c.y + 1 ∧ c.x < e.start.x then -1 else 0
  | _ => 0

/-- How often loops turn around the middle of a cell: the unit edges that cross the row of the cell
to its right, northward less southward. -/
def windingNumber (loops : List (List Corner)) (c : Cell) : Int :=
  ((loops.flatMap loopEdges).map (crossing c)).sum

theorem crossing_reverse (c : Cell) (e : Edge) : crossing c e.reverse = -crossing c e := by
  obtain ⟨⟨x, y⟩, heading⟩ := e
  cases heading with
  | east => rfl
  | west => rfl
  | north =>
      simp only [crossing, Edge.reverse, Edge.target, Heading.back, Heading.left,
        add_left_inj]
      split <;> rfl
  | south =>
      have sameRow : y - 1 = c.y ↔ y = c.y + 1 := by omega
      simp only [crossing, Edge.reverse, Edge.target, Heading.back, Heading.left, sameRow]
      split <;> rfl

/-- The edges around a cell turn once around it and around no other cell. -/
theorem sum_crossing_sides (c d : Cell) :
    (d.sides.map (crossing c)).sum = if d = c then 1 else 0 := by
  obtain ⟨x, y⟩ := c
  obtain ⟨u, v⟩ := d
  simp only [Cell.sides, List.map_cons, List.map_nil, List.sum_cons, List.sum_nil, crossing,
    Cell.mk.injEq, add_left_inj]
  split <;> split <;> split <;> omega

theorem sides_nodup (c : Cell) : c.sides.Nodup := by
  simp [Cell.sides]

/-! ## Sums over the edges of a set -/

def leftEdges (cells : Finset Cell) : Finset Edge :=
  cells.biUnion fun c => c.sides.toFinset

theorem mem_leftEdges_iff (cells : Finset Cell) (e : Edge) :
    e ∈ leftEdges cells ↔ e.leftCell ∈ cells := by
  simp [leftEdges, mem_sides_iff]

theorem sum_leftEdges (cells : Finset Cell) (c : Cell) :
    ∑ e ∈ leftEdges cells, crossing c e = if c ∈ cells then 1 else 0 := by
  have apart : (cells : Set Cell).PairwiseDisjoint fun d => d.sides.toFinset := by
    intro d _ other _ different
    refine Finset.disjoint_left.mpr fun e inside outside => different ?_
    rw [List.mem_toFinset, mem_sides_iff] at inside outside
    rw [← inside, ← outside]
  calc ∑ e ∈ leftEdges cells, crossing c e
      = ∑ d ∈ cells, ∑ e ∈ d.sides.toFinset, crossing c e := Finset.sum_biUnion apart
    _ = ∑ d ∈ cells, if d = c then (1 : Int) else 0 := by
        refine Finset.sum_congr rfl ?_
        intro d _
        rw [List.sum_toFinset (crossing c) (sides_nodup d), sum_crossing_sides]
    _ = if c ∈ cells then 1 else 0 := by
        rw [Finset.sum_ite_eq']

/-- The edges between two cells of a set cancel. -/
theorem sum_inner_edges (cells : Finset Cell) (c : Cell) :
    ∑ e ∈ (leftEdges cells).filter (·.rightCell ∈ cells), crossing c e = 0 := by
  refine Finset.sum_involution (fun e _ => e.reverse) ?_ ?_ ?_ ?_
  · intro e _
    rw [crossing_reverse]
    exact Int.add_right_neg _
  · intro e _ _
    exact e.reverse_ne
  · intro e member
    rw [Finset.mem_filter, mem_leftEdges_iff] at member ⊢
    rw [e.reverse_leftCell, e.reverse_rightCell]
    exact ⟨member.2, member.1⟩
  · intro e _
    exact e.reverse_reverse

theorem sum_boundary_edges (cells : Finset Cell) (c : Cell) :
    ∑ e ∈ (leftEdges cells).filter (·.rightCell ∉ cells), crossing c e =
      if c ∈ cells then 1 else 0 := by
  have parts := Finset.sum_filter_add_sum_filter_not (leftEdges cells)
    (fun e => e.rightCell ∈ cells) (crossing c)
  rw [sum_inner_edges, sum_leftEdges, zero_add] at parts
  exact parts

/-! ## Outlines -/

theorem loopEdges_walks {filled : Cell → Bool} {found : List (List Edge)}
    (closed : ∀ edges ∈ found, ClosedWalk filled edges) :
    ((found.map turns).flatMap loopEdges).Perm found.flatten := by
  induction found with
  | nil => exact List.Perm.refl _
  | cons edges rest ih =>
      rw [List.map_cons, List.flatMap_cons, List.flatten_cons]
      refine List.Perm.append ?_ (ih fun other member => closed other (List.mem_cons_of_mem _ member))
      exact (loopEdges_turns (closed edges (List.mem_cons_self ..))).2

/-- The outlines of a set of cells consist of straight sides.  Cut into unit edges they walk every
edge between a cell of the set and a cell outside of it once, with the cell of the set on the left,
and no other edge; so they turn once around each cell of the set and not around any other. -/
theorem traceOutlines_bounds_cells (cells : List Cell) :
    (∀ loop ∈ traceOutlines cells, ∀ side ∈ sides loop, IsStraight side) ∧
      ((traceOutlines cells).flatMap loopEdges).Nodup ∧
      (∀ e, e ∈ (traceOutlines cells).flatMap loopEdges ↔
        e.leftCell ∈ cells ∧ e.rightCell ∉ cells) ∧
      ∀ c, windingNumber (traceOutlines cells) c = if c ∈ cells then 1 else 0 := by
  obtain ⟨closed, nodup, complete⟩ := outlineWalks_spec cells
  have cut : ((traceOutlines cells).flatMap loopEdges).Perm (outlineWalks cells).flatten := by
    rw [traceOutlines_eq]
    exact loopEdges_walks closed
  have once : ((traceOutlines cells).flatMap loopEdges).Nodup := cut.nodup_iff.mpr nodup
  have between : ∀ e, e ∈ (traceOutlines cells).flatMap loopEdges ↔
      e.leftCell ∈ cells ∧ e.rightCell ∉ cells := by
    intro e
    rw [cut.mem_iff, complete e, Edge.isBoundary_iff, contains_ofList_iff,
      ← Bool.not_eq_true, contains_ofList_iff]
  refine ⟨?_, once, between, ?_⟩
  · intro loop member
    rw [traceOutlines_eq] at member
    obtain ⟨edges, found, rfl⟩ := List.mem_map.mp member
    exact (loopEdges_turns (closed edges found)).1
  · intro c
    have sameEdges : ((traceOutlines cells).flatMap loopEdges).toFinset =
        (leftEdges cells.toFinset).filter (·.rightCell ∉ cells.toFinset) := by
      ext e
      rw [List.mem_toFinset, between e, Finset.mem_filter, mem_leftEdges_iff, List.mem_toFinset,
        List.mem_toFinset]
    calc windingNumber (traceOutlines cells) c
        = ∑ e ∈ ((traceOutlines cells).flatMap loopEdges).toFinset, crossing c e :=
          (List.sum_toFinset (crossing c) once).symm
      _ = if c ∈ cells.toFinset then 1 else 0 := by
          rw [sameEdges, sum_boundary_edges]
      _ = if c ∈ cells then 1 else 0 := by
          simp only [List.mem_toFinset]

end GameScenes.Tiles
