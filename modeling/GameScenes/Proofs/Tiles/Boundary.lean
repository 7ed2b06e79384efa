import GameScenes.Tiles.Outline
import Mathlib.Data.List.Perm.Basic

/-!
# The boundary of a cell set, edge by edge

What one step of a walk along the boundary does.  From a boundary edge the walk sees the two cells
ahead of it; these decide between a turn to the left, going straight on and a turn to the right, and
`nextEdge?_of_isBoundary` says that there always is such an edge.  No boundary edge is reached from
two others (`successor_injective`), so that the boundary falls apart into closed walks.
-/

set_option autoImplicit false

namespace GameScenes.Tiles

namespace Edge

def straight (e : Edge) : Edge := ⟨e.target, e.heading⟩

def turnLeft (e : Edge) : Edge := ⟨e.target, e.heading.left⟩

def turnRight (e : Edge) : Edge := ⟨e.target, e.heading.right⟩

/-- The same edge walked the other way. -/
def reverse (e : Edge) : Edge := ⟨e.target, e.heading.back⟩

theorem turnLeft_leftCell (e : Edge) : e.turnLeft.leftCell = e.leftCell := by
  obtain ⟨⟨x, y⟩, heading⟩ := e
  cases heading <;> simp [turnLeft, leftCell, target, Heading.left]

theorem turnLeft_rightCell (e : Edge) : e.turnLeft.rightCell = e.straight.leftCell := by
  obtain ⟨⟨x, y⟩, heading⟩ := e
  cases heading <;> simp [turnLeft, straight, leftCell, rightCell, target, Heading.left]

theorem turnRight_leftCell (e : Edge) : e.turnRight.leftCell = e.straight.rightCell := by
  obtain ⟨⟨x, y⟩, heading⟩ := e
  cases heading <;>
    simp [turnRight, straight, leftCell, rightCell, target, Heading.right, Heading.left]

theorem turnRight_rightCell (e : Edge) : e.turnRight.rightCell = e.rightCell := by
  obtain ⟨⟨x, y⟩, heading⟩ := e
  cases heading <;> simp [turnRight, rightCell, target, Heading.right, Heading.left]

theorem reverse_leftCell (e : Edge) : e.reverse.leftCell = e.rightCell := by
  obtain ⟨⟨x, y⟩, heading⟩ := e
  cases heading <;> simp [reverse, leftCell, rightCell, target, Heading.back, Heading.left]

theorem reverse_rightCell (e : Edge) : e.reverse.rightCell = e.leftCell := by
  obtain ⟨⟨x, y⟩, heading⟩ := e
  cases heading <;> simp [reverse, leftCell, rightCell, target, Heading.back, Heading.left]

theorem reverse_reverse (e : Edge) : e.reverse.reverse = e := by
  obtain ⟨⟨x, y⟩, heading⟩ := e
  cases heading <;> simp [reverse, target, Heading.back, Heading.left]

theorem reverse_ne (e : Edge) : e.reverse ≠ e := by
  obtain ⟨⟨x, y⟩, heading⟩ := e
  cases heading <;> simp [reverse, target, Heading.back, Heading.left]

theorem isBoundary_iff (filled : Cell → Bool) (e : Edge) :
    e.isBoundary filled = true ↔ filled e.leftCell = true ∧ filled e.rightCell = false := by
  simp [isBoundary]

/-! ## Two edges into one corner -/

/-- Two edges that go straight on to the same edge are the same. -/
theorem straight_injective {a b : Edge} (same : a.straight = b.straight) : a = b := by
  obtain ⟨⟨x, y⟩, heading⟩ := a
  obtain ⟨⟨u, v⟩, other⟩ := b
  cases heading <;> cases other <;> simp [straight, target] at same ⊢ <;> omega

theorem turnLeft_injective {a b : Edge} (same : a.turnLeft = b.turnLeft) : a = b := by
  obtain ⟨⟨x, y⟩, heading⟩ := a
  obtain ⟨⟨u, v⟩, other⟩ := b
  cases heading <;> cases other <;> simp [turnLeft, target, Heading.left] at same ⊢ <;> omega

theorem turnRight_injective {a b : Edge} (same : a.turnRight = b.turnRight) : a = b := by
  obtain ⟨⟨x, y⟩, heading⟩ := a
  obtain ⟨⟨u, v⟩, other⟩ := b
  cases heading <;> cases other <;>
    simp [turnRight, target, Heading.right, Heading.left] at same ⊢ <;> omega

/-- Where one edge turns left into an edge that continues another, the cell to the right of the
first is the cell to the left of the second. -/
theorem rightCell_of_turnLeft_eq_straight {a b : Edge} (same : a.turnLeft = b.straight) :
    a.rightCell = b.leftCell := by
  obtain ⟨⟨x, y⟩, heading⟩ := a
  obtain ⟨⟨u, v⟩, other⟩ := b
  cases heading <;> cases other <;>
    simp [turnLeft, straight, target, leftCell, rightCell, Heading.left] at same ⊢ <;> omega

theorem rightCell_of_turnLeft_eq_turnRight {a b : Edge} (same : a.turnLeft = b.turnRight) :
    a.rightCell = b.straight.leftCell := by
  obtain ⟨⟨x, y⟩, heading⟩ := a
  obtain ⟨⟨u, v⟩, other⟩ := b
  cases heading <;> cases other <;>
    simp [turnLeft, turnRight, straight, target, leftCell, rightCell, Heading.left,
      Heading.right] at same ⊢ <;> omega

theorem rightCell_of_straight_eq_turnRight {a b : Edge} (same : a.straight = b.turnRight) :
    a.rightCell = b.leftCell := by
  obtain ⟨⟨x, y⟩, heading⟩ := a
  obtain ⟨⟨u, v⟩, other⟩ := b
  cases heading <;> cases other <;>
    simp [turnRight, straight, target, leftCell, rightCell, Heading.left,
      Heading.right] at same ⊢ <;> omega

end Edge

/-! ## One step of a walk -/

/-- The edge that follows a boundary edge, by the cells ahead of it on the left and on the
right. -/
def successor (filled : Cell → Bool) (e : Edge) : Edge :=
  if filled e.straight.leftCell then
    if filled e.straight.rightCell then e.turnRight else e.straight
  else e.turnLeft

theorem successor_start (filled : Cell → Bool) (e : Edge) :
    (successor filled e).start = e.target := by
  unfold successor
  split
  · split <;> rfl
  · rfl

/-- The edge after a boundary edge is a boundary edge. -/
theorem successor_isBoundary (filled : Cell → Bool) (e : Edge) (boundary : e.isBoundary filled) :
    (successor filled e).isBoundary filled := by
  obtain ⟨left, right⟩ := (e.isBoundary_iff filled).mp boundary
  unfold successor
  split
  · rename_i leftAhead
    split
    · rename_i rightAhead
      rw [Edge.isBoundary_iff, e.turnRight_leftCell, e.turnRight_rightCell]
      exact ⟨rightAhead, right⟩
    · rename_i rightAhead
      rw [Edge.isBoundary_iff]
      exact ⟨leftAhead, by simpa using rightAhead⟩
  · rename_i leftAhead
    rw [Edge.isBoundary_iff, e.turnLeft_leftCell, e.turnLeft_rightCell]
    exact ⟨left, by simpa using leftAhead⟩

/-- A walk never ends at the end of a boundary edge, and it goes on as the cells ahead say. -/
theorem nextEdge?_of_isBoundary (filled : Cell → Bool) (e : Edge)
    (boundary : e.isBoundary filled) : nextEdge? filled e = some (successor filled e) := by
  obtain ⟨left, right⟩ := (e.isBoundary_iff filled).mp boundary
  have leftTurn : e.turnLeft.isBoundary filled = !filled e.straight.leftCell := by
    simp [Edge.isBoundary, e.turnLeft_leftCell, e.turnLeft_rightCell, left]
  have rightTurn : e.turnRight.isBoundary filled = filled e.straight.rightCell := by
    simp [Edge.isBoundary, e.turnRight_leftCell, e.turnRight_rightCell, right]
  have unfolded : nextEdge? filled e =
      [e.turnLeft, e.straight, e.turnRight, e.reverse].find? (·.isBoundary filled) := rfl
  rw [unfolded]
  unfold successor
  cases leftAhead : filled e.straight.leftCell with
  | false => simp [leftTurn, leftAhead]
  | true =>
      cases rightAhead : filled e.straight.rightCell with
      | false =>
          have straightOn : e.straight.isBoundary filled = true := by
            simp [Edge.isBoundary, leftAhead, rightAhead]
          simp [leftTurn, leftAhead, straightOn]
      | true =>
          have blocked : e.straight.isBoundary filled = false := by
            simp [Edge.isBoundary, rightAhead]
          simp [leftTurn, leftAhead, blocked, rightTurn, rightAhead]

/-- No edge follows two boundary edges.  At a corner where four boundary edges meet this is due to
the turn to the left: it keeps the two ways through the corner apart. -/
theorem successor_injective (filled : Cell → Bool) (a b : Edge) (boundaryA : a.isBoundary filled)
    (boundaryB : b.isBoundary filled) (same : successor filled a = successor filled b) :
    a = b := by
  obtain ⟨leftA, rightA⟩ := (a.isBoundary_iff filled).mp boundaryA
  obtain ⟨leftB, rightB⟩ := (b.isBoundary_iff filled).mp boundaryB
  unfold successor at same
  split at same
  · rename_i aheadA
    split at same
    · split at same
      · split at same
        · exact Edge.turnRight_injective same
        · have cells := Edge.rightCell_of_straight_eq_turnRight same.symm
          simp [← cells, rightB] at leftA
      · have cells := Edge.rightCell_of_turnLeft_eq_turnRight same.symm
        simp [← cells, rightB] at aheadA
    · split at same
      · split at same
        · have cells := Edge.rightCell_of_straight_eq_turnRight same
          simp [← cells, rightA] at leftB
        · exact Edge.straight_injective same
      · have cells := Edge.rightCell_of_turnLeft_eq_straight same.symm
        simp [← cells, rightB] at leftA
  · split at same
    · rename_i aheadB
      split at same
      · have cells := Edge.rightCell_of_turnLeft_eq_turnRight same
        simp [← cells, rightA] at aheadB
      · have cells := Edge.rightCell_of_turnLeft_eq_straight same
        simp [← cells, rightA] at leftB
    · exact Edge.turnLeft_injective same

/-! ## The edges of a finite set -/

theorem mem_sides_iff (c : Cell) (e : Edge) : e ∈ c.sides ↔ e.leftCell = c := by
  obtain ⟨⟨x, y⟩, heading⟩ := e
  obtain ⟨u, v⟩ := c
  cases heading <;> simp [Cell.sides, Edge.leftCell] <;> omega

/-- The boundary edges of the cells are all edges between a filled cell and one that is not. -/
theorem mem_boundaryEdges_iff (filled : Cell → Bool) (cells : List Cell)
    (covers : ∀ c, filled c = true → c ∈ cells) (e : Edge) :
    e ∈ boundaryEdges filled cells ↔ e.isBoundary filled = true := by
  unfold boundaryEdges
  rw [List.mem_mergeSort, List.mem_filter, List.mem_flatMap]
  constructor
  · rintro ⟨_, boundary⟩
    exact boundary
  · intro boundary
    have left := ((e.isBoundary_iff filled).mp boundary).1
    exact ⟨⟨e.leftCell, covers e.leftCell left, (mem_sides_iff e.leftCell e).mpr rfl⟩, boundary⟩

theorem contains_ofList_iff (cells : List Cell) (c : Cell) :
    (Std.HashSet.ofList cells).contains c = true ↔ c ∈ cells := by
  simp

end GameScenes.Tiles
