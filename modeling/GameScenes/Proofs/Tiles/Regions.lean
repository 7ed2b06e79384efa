import GameScenes.Proofs.Tiles.Walk
import Mathlib.Data.List.Pairwise
import Mathlib.Logic.Function.Iterate

/-!
# Regions apart

Each walk along the boundary of a set of cells starts at its least edge, since the walks are begun
in ascending order.  With that the walks are determined by the boundary alone (`OutlinedBy.perm`).
Where no cell of a set has a side in common with a cell of another one, the boundary of both together
falls apart into theirs, and so do the outlines (`traceOutlines_of_apart`).
-/

set_option autoImplicit false

namespace GameScenes.Tiles

/-- Whether two cells have a side in common. -/
def Cell.Beside (c d : Cell) : Prop := (c.x - d.x).natAbs + (c.y - d.y).natAbs = 1

instance (c d : Cell) : Decidable (c.Beside d) :=
  inferInstanceAs (Decidable ((c.x - d.x).natAbs + (c.y - d.y).natAbs = 1))

theorem Edge.leftCell_beside_rightCell (e : Edge) : e.leftCell.Beside e.rightCell := by
  obtain ⟨⟨x, y⟩, heading⟩ := e
  cases heading <;> simp only [Cell.Beside, leftCell, rightCell] <;> omega

theorem Edge.leftCell_beside_straight (e : Edge) : e.leftCell.Beside e.straight.leftCell := by
  obtain ⟨⟨x, y⟩, heading⟩ := e
  cases heading <;> simp only [Cell.Beside, straight, target, leftCell] <;> omega

/-! ## The order of edges -/

theorem Heading.rank_injective {a b : Heading} (same : a.rank = b.rank) : a = b := by
  cases a <;> cases b <;> simp [Heading.rank] at same ⊢

theorem Edge.precedes_iff (a b : Edge) :
    a.precedes b = true ↔ a.start.x < b.start.x ∨ a.start.x = b.start.x ∧
      (a.start.y < b.start.y ∨ a.start.y = b.start.y ∧ a.heading.rank < b.heading.rank) := by
  unfold precedes
  split
  · simp
    omega
  · split
    · simp
      omega
    · simp
      omega

theorem Edge.eq_of_not_precedes {a b : Edge} (left : a.precedes b = false)
    (right : b.precedes a = false) : a = b := by
  rw [← Bool.not_eq_true, precedes_iff] at left right
  obtain ⟨⟨x, y⟩, heading⟩ := a
  obtain ⟨⟨u, v⟩, other⟩ := b
  have ranks : heading.rank = other.rank := by
    dsimp only at left right
    omega
  have headings := Heading.rank_injective ranks
  subst headings
  simp
  dsimp only at left right
  omega

/-- That edges stand in ascending order. -/
def Ascending (edges : List Edge) : Prop := edges.Pairwise fun a b => b.precedes a = false

/-- That no edge of a walk stands before its first one. -/
def StartsLeast (edges : List Edge) : Prop :=
  ∀ first, edges.head? = some first → ∀ e ∈ edges, e.precedes first = false

theorem IsTrail.getElem {filled : Cell → Bool} {first : Edge} {rest : List Edge}
    (trail : IsTrail filled (first :: rest)) (k : Nat) (inside : k < (first :: rest).length) :
    (first :: rest)[k] = (successor filled)^[k] first := by
  induction k generalizing first rest with
  | zero => rfl
  | succ k ih =>
      cases rest with
      | nil => simp at inside
      | cons next rest =>
          rw [Function.iterate_succ_apply, trail.1]
          exact ih trail.2 (by simpa using inside)

theorem IsTrail.congr {filled other : Cell → Bool} {edges : List Edge}
    (trail : IsTrail filled edges)
    (same : ∀ e ∈ edges, successor other e = successor filled e) : IsTrail other edges := by
  induction edges with
  | nil => trivial
  | cons e rest ih =>
      cases rest with
      | nil => trivial
      | cons next rest =>
          exact ⟨(same e (List.mem_cons_self ..)).trans trail.1,
            ih trail.2 fun x member => same x (List.mem_cons_of_mem _ member)⟩

section
variable {filled : Cell → Bool} {edges others : List Edge}

theorem ClosedWalk.exists_cons (closed : ClosedWalk filled edges) :
    ∃ first rest, edges = first :: rest := by
  obtain ⟨first, last, starts, -, -⟩ := closed.closes
  exact ⟨first, edges.tail, List.eq_cons_of_mem_head? starts⟩

/-- After as many steps as a closed walk has edges it is back at its first edge. -/
theorem ClosedWalk.iterate_length {first : Edge} {rest : List Edge}
    (closed : ClosedWalk filled (first :: rest)) :
    (successor filled)^[rest.length + 1] first = first := by
  obtain ⟨head, last, starts, ends, closing⟩ := closed.closes
  obtain rfl : first = head := by simpa using starts
  have lastPlace : (first :: rest)[rest.length] = last := by
    rw [List.getLast?_eq_getElem?] at ends
    exact (List.getElem?_eq_some_iff.mp ends).2
  rw [Function.iterate_succ_apply', ← closed.trail.getElem rest.length (by simp), lastPlace,
    closing]

/-- The edge after an edge of a closed walk belongs to the walk. -/
theorem ClosedWalk.successor_mem (closed : ClosedWalk filled edges) {e : Edge} (member : e ∈ edges) :
    successor filled e ∈ edges := by
  obtain ⟨first, rest, rfl⟩ := closed.exists_cons
  obtain ⟨k, inside, rfl⟩ := List.getElem_of_mem member
  rw [closed.trail.getElem k inside, ← Function.iterate_succ_apply' (successor filled)]
  rcases Nat.lt_or_ge (k + 1) (first :: rest).length with next | ended
  · rw [← closed.trail.getElem (k + 1) next]
    exact List.getElem_mem next
  · have last : k.succ = rest.length + 1 := Nat.le_antisymm inside ended
    rw [last, closed.iterate_length]
    exact List.mem_cons_self ..

/-- A closed walk is determined by its first edge. -/
theorem ClosedWalk.length_le {first : Edge} {rest more : List Edge}
    (closed : ClosedWalk filled (first :: rest)) (other : ClosedWalk filled (first :: more)) :
    more.length ≤ rest.length := by
  by_contra longer
  have inside : rest.length + 1 < (first :: more).length := by
    simp
    omega
  -- The longer walk would come back to its first edge too early.
  have again : (first :: more)[rest.length + 1] = (first :: more)[0] := by
    rw [other.trail.getElem _ inside, closed.iterate_length]
    rfl
  have places := (other.nodup.getElem_inj_iff).mp again
  omega

theorem ClosedWalk.eq_of_head? (closed : ClosedWalk filled edges)
    (other : ClosedWalk filled others) (same : edges.head? = others.head?) : edges = others := by
  obtain ⟨first, rest, rfl⟩ := closed.exists_cons
  obtain ⟨head, more, rfl⟩ := other.exists_cons
  obtain rfl : first = head := by simpa using same
  refine List.ext_getElem ?_ fun k inside outside => ?_
  · simpa using Nat.le_antisymm (other.length_le closed) (closed.length_le other)
  · rw [closed.trail.getElem k inside, other.trail.getElem k outside]

/-- A closed walk that shares an edge with another one runs inside of it. -/
theorem ClosedWalk.subset (closed : ClosedWalk filled edges) (other : ClosedWalk filled others)
    {e : Edge} (member : e ∈ edges) (shared : e ∈ others) : edges ⊆ others := by
  obtain ⟨first, rest, rfl⟩ := closed.exists_cons
  have back : ∀ k (inside : k < (first :: rest).length), (first :: rest)[k] ∈ others →
      first ∈ others := by
    intro k
    induction k with
    | zero => exact fun _ here => here
    | succ k ih =>
        intro inside here
        have before : k < (first :: rest).length := Nat.lt_of_succ_lt inside
        refine ih before (other.backwardClosed _ (closed.boundary _ (List.getElem_mem before)) ?_)
        rwa [closed.trail.getElem k before, ← Function.iterate_succ_apply' (successor filled),
          ← closed.trail.getElem (k + 1) inside]
  obtain ⟨k, inside, rfl⟩ := List.getElem_of_mem member
  have start := back k inside shared
  have forth : ∀ k, (successor filled)^[k] first ∈ others := by
    intro k
    induction k with
    | zero => exact start
    | succ k ih =>
        rw [Function.iterate_succ_apply']
        exact other.successor_mem ih
  intro x xMember
  obtain ⟨m, among, rfl⟩ := List.getElem_of_mem xMember
  rw [closed.trail.getElem m among]
  exact forth m

end

/-! ## The walks are determined by the boundary -/

/-- That closed walks run once through the boundary, each from its least edge on. -/
structure OutlinedBy (filled : Cell → Bool) (found : List (List Edge)) : Prop where
  closed : ∀ edges ∈ found, ClosedWalk filled edges
  least : ∀ edges ∈ found, StartsLeast edges
  nodup : found.flatten.Nodup
  covers : ∀ e, e.isBoundary filled = true → e ∈ found.flatten

section
variable {filled : Cell → Bool} {found others : List (List Edge)}

theorem OutlinedBy.nodup_walks (outlined : OutlinedBy filled found) : found.Nodup := by
  obtain ⟨-, apart⟩ := List.nodup_flatten.mp outlined.nodup
  refine apart.imp_of_mem fun {edges _} member _ disjoint same => ?_
  obtain ⟨first, rest, rfl⟩ := (outlined.closed edges member).exists_cons
  subst same
  exact disjoint (List.mem_cons_self ..) (List.mem_cons_self ..)

theorem OutlinedBy.subset (first : OutlinedBy filled found) (second : OutlinedBy filled others) :
    found ⊆ others := by
  intro edges member
  have closed := first.closed edges member
  obtain ⟨head, rest, rfl⟩ := closed.exists_cons
  have boundary := closed.boundary head (List.mem_cons_self ..)
  obtain ⟨other, among, shared⟩ := List.mem_flatten.mp (second.covers head boundary)
  have otherClosed := second.closed other among
  obtain ⟨start, more, rfl⟩ := otherClosed.exists_cons
  have inside := closed.subset otherClosed (List.mem_cons_self ..) shared
  have outside := otherClosed.subset closed shared (List.mem_cons_self ..)
  have same : head = start :=
    Edge.eq_of_not_precedes
      (second.least _ among start rfl head shared)
      (first.least _ member head rfl start (outside (List.mem_cons_self ..)))
  have equal : head :: rest = start :: more := closed.eq_of_head? otherClosed (by simp [same])
  exact equal ▸ among

theorem OutlinedBy.perm (first : OutlinedBy filled found) (second : OutlinedBy filled others) :
    found.Perm others :=
  (List.perm_ext_iff_of_nodup first.nodup_walks second.nodup_walks).mpr fun _ =>
    ⟨fun member => first.subset second member, fun member => second.subset first member⟩

end

/-! ## Two sets of cells -/

/-- That no cell of one set is a cell of another one or has a side in common with one. -/
def Apart (filled other : Cell → Bool) : Prop :=
  ∀ c d, filled c = true → other d = true → c ≠ d ∧ ¬ c.Beside d

section
variable {filled other both : Cell → Bool} {e : Edge}

theorem Apart.symm (apart : Apart filled other) : Apart other filled := by
  intro c d inOther inFilled
  obtain ⟨different, separate⟩ := apart d c inFilled inOther
  refine ⟨different.symm, fun beside => separate ?_⟩
  unfold Cell.Beside at beside ⊢
  omega

/-- Beside a cell of one of the sets, both together are that set alone. -/
theorem Apart.both_eq (apart : Apart filled other)
    (union : ∀ c, both c = true ↔ filled c = true ∨ other c = true) {c d : Cell}
    (inside : filled c = true) (beside : c.Beside d) : both d = filled d := by
  have outside : other d ≠ true := fun inOther => (apart c d inside inOther).2 beside
  rw [Bool.eq_iff_iff, union d]
  exact or_iff_left outside

theorem Apart.isBoundary (apart : Apart filled other)
    (union : ∀ c, both c = true ↔ filled c = true ∨ other c = true)
    (boundary : e.isBoundary filled = true) : e.isBoundary both = true := by
  obtain ⟨left, right⟩ := (e.isBoundary_iff filled).mp boundary
  refine (e.isBoundary_iff both).mpr ⟨(union _).mpr (.inl left), ?_⟩
  rw [apart.both_eq union left e.leftCell_beside_rightCell, right]

/-- From an edge of one of the sets the walk goes on as around that set alone. -/
theorem Apart.successor (apart : Apart filled other)
    (union : ∀ c, both c = true ↔ filled c = true ∨ other c = true)
    (boundary : e.isBoundary filled = true) : successor both e = successor filled e := by
  have left := ((e.isBoundary_iff filled).mp boundary).1
  unfold Tiles.successor
  rw [apart.both_eq union left e.leftCell_beside_straight]
  split
  · rename_i ahead
    rw [apart.both_eq union ahead e.straight.leftCell_beside_rightCell]
  · rfl

theorem Apart.closedWalk (apart : Apart filled other)
    (union : ∀ c, both c = true ↔ filled c = true ∨ other c = true) {edges : List Edge}
    (closed : ClosedWalk filled edges) : ClosedWalk both edges where
  boundary := fun e member => apart.isBoundary union (closed.boundary e member)
  nodup := closed.nodup
  trail := closed.trail.congr fun e member => apart.successor union (closed.boundary e member)
  closes := by
    obtain ⟨first, last, starts, ends, closing⟩ := closed.closes
    have boundary := closed.boundary last (List.mem_of_getLast? ends)
    exact ⟨first, last, starts, ends, (apart.successor union boundary).trans closing⟩

end

/-- The walks around the one set and those around the other are walks around both. -/
theorem OutlinedBy.append {filled other both : Cell → Bool} {found others : List (List Edge)}
    (first : OutlinedBy filled found) (second : OutlinedBy other others)
    (apart : Apart filled other)
    (union : ∀ c, both c = true ↔ filled c = true ∨ other c = true) :
    OutlinedBy both (found ++ others) where
  closed := by
    intro edges member
    rcases List.mem_append.mp member with here | there
    · exact apart.closedWalk union (first.closed edges here)
    · exact apart.symm.closedWalk (fun c => (union c).trans or_comm) (second.closed edges there)
  least := by
    intro edges member
    rcases List.mem_append.mp member with here | there
    · exact first.least edges here
    · exact second.least edges there
  nodup := by
    rw [List.flatten_append, List.nodup_append']
    refine ⟨first.nodup, second.nodup, fun e here there => ?_⟩
    obtain ⟨edges, member, inside⟩ := List.mem_flatten.mp here
    obtain ⟨walk, among, around⟩ := List.mem_flatten.mp there
    have left := ((e.isBoundary_iff _).mp ((first.closed edges member).boundary e inside)).1
    have again := ((e.isBoundary_iff _).mp ((second.closed walk among).boundary e around)).1
    exact (apart _ _ left again).1 rfl
  covers := by
    intro e boundary
    obtain ⟨left, right⟩ := (e.isBoundary_iff both).mp boundary
    have outside : ¬ (filled e.rightCell = true ∨ other e.rightCell = true) := by
      rw [← union, right]
      exact Bool.false_ne_true
    rw [List.flatten_append, List.mem_append]
    rcases (union _).mp left with here | there
    · refine .inl (first.covers e ((e.isBoundary_iff filled).mpr ⟨here, ?_⟩))
      exact Bool.eq_false_iff.mpr fun inside => outside (.inl inside)
    · refine .inr (second.covers e ((e.isBoundary_iff other).mpr ⟨there, ?_⟩))
      exact Bool.eq_false_iff.mpr fun inside => outside (.inr inside)

end GameScenes.Tiles
