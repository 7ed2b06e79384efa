import GameScenes.Proofs.Tiles.Boundary
import Mathlib.Data.List.Nodup
import Mathlib.Data.List.Perm.Subperm

/-!
# The walks along a boundary

A walk from an edge that no earlier walk took runs through new edges only and stops where it began
(`walk_closed`).  What carries the argument is that the edges walked so far are closed under going
back: the edge before a walked edge was walked too.  All walks together pass through every boundary
edge once (`walks_flatten`).
-/

set_option autoImplicit false

namespace GameScenes.Tiles

/-- A list of edges each of which is followed by the next one. -/
def IsTrail (filled : Cell → Bool) : List Edge → Prop
  | [] => True
  | [_] => True
  | e :: next :: rest => successor filled e = next ∧ IsTrail filled (next :: rest)

/-- A walk that comes back to its first edge and takes no edge twice. -/
structure ClosedWalk (filled : Cell → Bool) (edges : List Edge) : Prop where
  boundary : ∀ e ∈ edges, e.isBoundary filled = true
  nodup : edges.Nodup
  trail : IsTrail filled edges
  closes : ∃ first last, edges.head? = some first ∧ edges.getLast? = some last ∧
    successor filled last = first

/-- A set of edges that holds the edge before each of its edges. -/
def BackwardClosed (filled : Cell → Bool) (walked : Edge → Prop) : Prop :=
  ∀ e, e.isBoundary filled = true → walked (successor filled e) → walked e

theorem IsTrail.tail {filled : Cell → Bool} {e : Edge} {rest : List Edge}
    (trail : IsTrail filled (e :: rest)) : IsTrail filled rest := by
  cases rest with
  | nil => trivial
  | cons next rest => exact trail.2

/-- An edge of a trail is the first one or follows another edge of the trail. -/
theorem IsTrail.first_or_follows {filled : Cell → Bool} {first : Edge} {rest : List Edge}
    (trail : IsTrail filled (first :: rest)) {e : Edge} (member : e ∈ first :: rest) :
    e = first ∨ ∃ before ∈ first :: rest, successor filled before = e := by
  induction rest generalizing first with
  | nil => exact Or.inl (by simpa using member)
  | cons next rest ih =>
      rcases List.mem_cons.mp member with same | later
      · exact Or.inl same
      · right
        rcases ih trail.tail later with same | ⟨before, inside, follows⟩
        · exact ⟨first, List.mem_cons_self .., same ▸ trail.1⟩
        · exact ⟨before, List.mem_cons_of_mem _ inside, follows⟩

/-- The last edge of a trail without repeats is followed by no edge of the trail but the first. -/
theorem IsTrail.successor_last {filled : Cell → Bool} {first last : Edge} {rest : List Edge}
    (trail : IsTrail filled (first :: rest)) (nodup : (first :: rest).Nodup)
    (boundary : ∀ e ∈ first :: rest, e.isBoundary filled = true)
    (ends : (first :: rest).getLast? = some last)
    (inside : successor filled last ∈ first :: rest) : successor filled last = first := by
  induction rest generalizing first with
  | nil => simpa using inside
  | cons next rest ih =>
      have lastMember : last ∈ next :: rest := by
        rw [List.getLast?_cons_cons] at ends
        exact List.mem_of_getLast? ends
      rcases List.mem_cons.mp inside with same | later
      · exact same
      · -- Otherwise the last edge leads to the second one, which already follows the first.
        have toNext := ih trail.tail nodup.tail (fun e he => boundary e (List.mem_cons_of_mem _ he))
          (by simpa using ends) later
        have same : first = last := by
          apply successor_injective filled first last
          · exact boundary first (List.mem_cons_self ..)
          · exact boundary last (List.mem_cons_of_mem _ lastMember)
          · rw [trail.1, toNext]
        exact absurd (same ▸ lastMember) (List.nodup_cons.mp nodup).1

/-! ## One walk -/

/-- What a walk from an edge yields: new edges in a trail, after which the walk met an edge that was
walked or used up its steps. -/
structure WalkSpec (filled : Cell → Bool) (walked : Std.HashSet Edge) (e : Edge) (steps : Nat)
    (edges : List Edge) (after : Std.HashSet Edge) : Prop where
  starts : edges.head? = some e
  trail : IsTrail filled edges
  boundary : ∀ x ∈ edges, x.isBoundary filled = true
  nodup : edges.Nodup
  fresh : ∀ x ∈ edges, walked.contains x = false
  contains_iff : ∀ x, after.contains x = true ↔ walked.contains x = true ∨ x ∈ edges
  stops : (∃ last, edges.getLast? = some last ∧ after.contains (successor filled last) = true) ∨
    edges.length = steps

theorem contains_insert_iff (walked : Std.HashSet Edge) (e x : Edge) :
    (walked.insert e).contains x = true ↔ walked.contains x = true ∨ x = e := by
  rw [Std.HashSet.contains_insert, Bool.or_eq_true, beq_iff_eq, or_comm]
  exact or_congr Iff.rfl eq_comm

/-- A walk of one edge. -/
theorem WalkSpec.single {filled : Cell → Bool} {walked : Std.HashSet Edge} {e : Edge} {steps : Nat}
    (boundary : e.isBoundary filled = true) (new : walked.contains e = false)
    (stops : (walked.insert e).contains (successor filled e) = true ∨ steps = 1) :
    WalkSpec filled walked e steps [e] (walked.insert e) where
  starts := rfl
  trail := trivial
  boundary := by simpa using boundary
  nodup := List.nodup_singleton e
  fresh := by simpa using new
  contains_iff := fun x => by
    rw [contains_insert_iff, List.mem_singleton]
  stops := stops.imp (fun met => ⟨e, rfl, met⟩) (fun used => by simp [used])

theorem walk_spec (filled : Cell → Bool) (walked : Std.HashSet Edge) (e : Edge) (steps : Nat)
    (boundary : e.isBoundary filled = true) (new : walked.contains e = false) :
    WalkSpec filled walked e (steps + 1) (walk filled walked e (steps + 1)).1
      (walk filled walked e (steps + 1)).2 := by
  induction steps generalizing walked e with
  | zero =>
      have single : walk filled walked e 1 = ([e], walked.insert e) := by
        simp [walk, nextEdge?_of_isBoundary filled e boundary]
      rw [single]
      exact WalkSpec.single boundary new (Or.inr rfl)
  | succ steps ih =>
      rw [walk, nextEdge?_of_isBoundary filled e boundary]
      dsimp only
      split
      · rename_i met
        exact WalkSpec.single boundary new (Or.inl met)
      · rename_i unmet
        have further := ih (walked.insert e) (successor filled e)
          (successor_isBoundary filled e boundary) (by simpa using unmet)
        generalize walk filled (walked.insert e) (successor filled e) (steps + 1) = result
          at further
        obtain ⟨rest, after⟩ := result
        dsimp only at further ⊢
        obtain ⟨next, tail, rfl⟩ : ∃ next tail, rest = next :: tail := by
          cases rest with
          | nil => exact absurd further.starts (by simp)
          | cons next tail => exact ⟨next, tail, rfl⟩
        have starts : next = successor filled e := by simpa using further.starts
        have outside : e ∉ next :: tail := by
          intro inside
          have unwalked := further.fresh e inside
          simp at unwalked
        exact
          { starts := rfl
            trail := ⟨starts.symm, further.trail⟩
            boundary := by
              intro x member
              rcases List.mem_cons.mp member with same | later
              · exact same ▸ boundary
              · exact further.boundary x later
            nodup := List.nodup_cons.mpr ⟨outside, further.nodup⟩
            fresh := by
              intro x member
              rcases List.mem_cons.mp member with same | later
              · exact same ▸ new
              · have unwalked := further.fresh x later
                simp only [Std.HashSet.contains_insert, Bool.or_eq_false_iff] at unwalked
                exact unwalked.2
            contains_iff := by
              intro x
              rw [further.contains_iff x, contains_insert_iff, or_assoc,
                List.mem_cons (a := x) (b := e)]
            stops := by
              rcases further.stops with ⟨last, ends, met⟩ | used
              · exact Or.inl ⟨last, by simpa using ends, met⟩
              · exact Or.inr (by simpa using used) }

/-- A walk of edges from a list that holds all boundary edges stops before its steps are used up, or
just when they are: in both cases at an edge that was walked. -/
theorem WalkSpec.meets {filled : Cell → Bool} {walked after : Std.HashSet Edge} {e : Edge}
    {edges all : List Edge} (spec : WalkSpec filled walked e all.length edges after)
    (complete : ∀ x, x ∈ all ↔ x.isBoundary filled = true) :
    ∃ last, edges.getLast? = some last ∧ after.contains (successor filled last) = true := by
  rcases spec.stops with stopped | used
  · exact stopped
  · have included : edges ⊆ all := fun x member => (complete x).mpr (spec.boundary x member)
    have everything : edges.Perm all :=
      (spec.nodup.subperm included).perm_of_length_le (by omega)
    cases ends : edges.getLast? with
    | none =>
        rw [List.getLast?_eq_none_iff] at ends
        have started := spec.starts
        simp [ends] at started
    | some last =>
        have lastMember : last ∈ edges := List.mem_of_getLast? ends
        have nextBoundary := successor_isBoundary filled last (spec.boundary last lastMember)
        have nextMember : successor filled last ∈ edges :=
          everything.mem_iff.mpr ((complete _).mpr nextBoundary)
        exact ⟨last, rfl, (spec.contains_iff _).mpr (Or.inr nextMember)⟩

/-- A walk closes: it cannot end at an edge of an earlier walk, since then it would have met that
walk before. -/
theorem WalkSpec.closedWalk {filled : Cell → Bool} {walked after : Std.HashSet Edge} {e : Edge}
    {edges all : List Edge} (spec : WalkSpec filled walked e all.length edges after)
    (complete : ∀ x, x ∈ all ↔ x.isBoundary filled = true)
    (backward : BackwardClosed filled fun x => walked.contains x = true) :
    ClosedWalk filled edges := by
  obtain ⟨last, ends, met⟩ := spec.meets complete
  have lastMember : last ∈ edges := List.mem_of_getLast? ends
  have inside : successor filled last ∈ edges := by
    rcases (spec.contains_iff _).mp met with earlier | inside
    · have lastWalked := backward last (spec.boundary last lastMember) earlier
      have unwalked := spec.fresh last lastMember
      simp [unwalked] at lastWalked
    · exact inside
  cases edges with
  | nil => simp at lastMember
  | cons first rest =>
      have closing := spec.trail.successor_last spec.nodup spec.boundary ends inside
      exact ⟨spec.boundary, spec.nodup, spec.trail, first, last, rfl, ends, closing⟩

/-- The edge before an edge of a closed walk belongs to the walk. -/
theorem ClosedWalk.backwardClosed {filled : Cell → Bool} {edges : List Edge}
    (closed : ClosedWalk filled edges) : BackwardClosed filled (· ∈ edges) := by
  intro e boundary member
  obtain ⟨first, last, starts, ends, closing⟩ := closed.closes
  cases edges with
  | nil => simp at starts
  | cons head rest =>
      have headEq : head = first := by simpa using starts
      have lastMember : last ∈ head :: rest := List.mem_of_getLast? ends
      rcases closed.trail.first_or_follows member with atHead | ⟨before, inside, follows⟩
      · have same : e = last := by
          apply successor_injective filled e last boundary (closed.boundary last lastMember)
          rw [atHead, headEq, closing]
        exact same ▸ lastMember
      · have same : e = before :=
          successor_injective filled e before boundary (closed.boundary before inside)
            follows.symm
        exact same ▸ inside

/-! ## All walks -/

structure WalksSpec (filled : Cell → Bool) (walked : Std.HashSet Edge) (starts : List Edge)
    (found : List (List Edge)) : Prop where
  closed : ∀ edges ∈ found, ClosedWalk filled edges
  nodup : found.flatten.Nodup
  fresh : ∀ x ∈ found.flatten, walked.contains x = false
  covers : ∀ x ∈ starts, walked.contains x = true ∨ x ∈ found.flatten

theorem walks_spec (filled : Cell → Bool) (all : List Edge)
    (complete : ∀ x, x ∈ all ↔ x.isBoundary filled = true) (starts : List Edge)
    (walked : Std.HashSet Edge) (boundary : ∀ x ∈ starts, x.isBoundary filled = true)
    (backward : BackwardClosed filled fun x => walked.contains x = true) :
    WalksSpec filled walked starts (walks filled all.length walked starts) := by
  induction starts generalizing walked with
  | nil => exact ⟨by simp [walks], by simp [walks], by simp [walks], by simp⟩
  | cons e rest ih =>
      have restBoundary : ∀ x ∈ rest, x.isBoundary filled = true :=
        fun x member => boundary x (List.mem_cons_of_mem _ member)
      have headBoundary : e.isBoundary filled = true := boundary e (List.mem_cons_self ..)
      rw [walks]
      split
      · rename_i known
        have others := ih walked restBoundary backward
        refine ⟨others.closed, others.nodup, others.fresh, ?_⟩
        intro x member
        rcases List.mem_cons.mp member with same | later
        · exact Or.inl (same ▸ known)
        · exact others.covers x later
      · rename_i unknown
        obtain ⟨steps, count⟩ : ∃ steps, all.length = steps + 1 := by
          have member : e ∈ all := (complete e).mpr headBoundary
          exact Nat.exists_eq_add_one.mpr (List.length_pos_of_mem member)
        have spec := walk_spec filled walked e steps headBoundary (by simpa using unknown)
        rw [← count] at spec
        generalize walk filled walked e all.length = result at spec
        obtain ⟨edges, after⟩ := result
        dsimp only at spec ⊢
        have closed := spec.closedWalk complete backward
        have backwardAfter : BackwardClosed filled fun x => after.contains x = true := by
          intro x xBoundary followed
          rcases (spec.contains_iff _).mp followed with earlier | inside
          · exact (spec.contains_iff x).mpr (Or.inl (backward x xBoundary earlier))
          · exact (spec.contains_iff x).mpr
              (Or.inr (closed.backwardClosed x xBoundary inside))
        have others := ih after restBoundary backwardAfter
        have apart : ∀ x ∈ edges, x ∉ (walks filled all.length after rest).flatten := by
          intro x inside later
          have unwalked := others.fresh x later
          rw [(spec.contains_iff x).mpr (Or.inr inside)] at unwalked
          cases unwalked
        refine ⟨?_, ?_, ?_, ?_⟩
        · intro other member
          rcases List.mem_cons.mp member with same | later
          · exact same ▸ closed
          · exact others.closed other later
        · rw [List.flatten_cons, List.nodup_append']
          exact ⟨spec.nodup, others.nodup, fun x inside later => apart x inside later⟩
        · intro x member
          rw [List.flatten_cons, List.mem_append] at member
          rcases member with inside | later
          · exact spec.fresh x inside
          · have unwalked := others.fresh x later
            cases before : walked.contains x with
            | false => rfl
            | true =>
                rw [(spec.contains_iff x).mpr (Or.inl before)] at unwalked
                cases unwalked
        · intro x member
          rw [List.flatten_cons, List.mem_append]
          rcases List.mem_cons.mp member with same | later
          · subst same
            have head : x ∈ edges := List.mem_of_head? spec.starts
            exact Or.inr (Or.inl head)
          · rcases others.covers x later with known | found
            · rcases (spec.contains_iff x).mp known with before | inside
              · exact Or.inl before
              · exact Or.inr (Or.inl inside)
            · exact Or.inr (Or.inr found)

/-- The walks around a set of cells, before they are reduced to their corners. -/
def outlineWalks (cells : List Cell) : List (List Edge) :=
  let filled := (Std.HashSet.ofList cells).contains
  let edges := boundaryEdges filled cells
  walks filled edges.length Std.HashSet.emptyWithCapacity edges

theorem traceOutlines_eq (cells : List Cell) :
    traceOutlines cells = (outlineWalks cells).map turns := rfl

/-- Every walk around a set of cells is closed; together they pass through each boundary edge once
and through no other edge. -/
theorem outlineWalks_spec (cells : List Cell) :
    (∀ edges ∈ outlineWalks cells, ClosedWalk (Std.HashSet.ofList cells).contains edges) ∧
      (outlineWalks cells).flatten.Nodup ∧
      ∀ e, e ∈ (outlineWalks cells).flatten ↔
        e.isBoundary (Std.HashSet.ofList cells).contains = true := by
  have complete := mem_boundaryEdges_iff (Std.HashSet.ofList cells).contains cells
    (fun c => (contains_ofList_iff cells c).mp)
  have spec := walks_spec _ _ complete _ Std.HashSet.emptyWithCapacity
    (fun x member => (complete x).mp member) (by intro e _ walked; simp at walked)
  refine ⟨spec.closed, spec.nodup, fun e => ⟨?_, ?_⟩⟩
  · intro member
    obtain ⟨edges, found, inside⟩ := List.mem_flatten.mp member
    exact (spec.closed edges found).boundary e inside
  · intro boundary
    rcases spec.covers e ((complete e).mpr boundary) with walked | found
    · simp at walked
    · exact found

end GameScenes.Tiles
