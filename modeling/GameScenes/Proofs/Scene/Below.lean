import GameScenes.Proofs.Scene.Moving

/-!
# What stands below an entity

A walk with a stack of pending entities meets, on a forest, first an entity and then all that stands
below it before it comes to the next one of the stack (`Walk.run_eq`).  It ends after less rounds
than there are entities, and it has then met exactly what the recursion over children lists
(`Reachable.descendants_preorder`).
-/

set_option autoImplicit false

namespace GameScenes.Scene.Graph

open Relation (ReflTransGen TransGen)

variable {g : Graph} {id : EntityId}

/-! ## Entities of one depth -/

/-- No entity stands at or below two others of the same depth. -/
theorem HasDepth.eq_of_below {first second low : EntityId} {depth : Nat}
    (one : g.HasDepth first depth) (other : g.HasDepth second depth)
    (way : ReflTransGen (fun parent child => g.parent? child = some parent) first low)
    (again : ReflTransGen (fun parent child => g.parent? child = some parent) second low) :
    first = second := by
  induction way with
  | refl =>
      rcases Relation.reflTransGen_iff_eq_or_transGen.mp again with same | above
      · exact same
      · exact absurd (other.lt_of_above one above) (Nat.lt_irrefl depth)
  | tail way link ih =>
      rcases (ReflTransGen.cases_tail_iff _ _ _).mp again with rfl | ⟨last, before, up⟩
      · exact absurd (one.lt_of_above other (.tail' way link)) (Nat.lt_irrefl depth)
      · cases link.symm.trans up
        exact ih before

/-- Below different entities of one depth nothing is listed twice. -/
theorem Preorder.nodup {ids order : List EntityId} {depth : Nat} (listed : g.Preorder ids order)
    (forest : g.Forest) (once : ids.Nodup) (level : ∀ id ∈ ids, g.HasDepth id depth) :
    order.Nodup := by
  induction listed generalizing depth with
  | nil => exact List.nodup_nil
  | @cons id rest below after inner outer ihBelow ihAfter =>
      obtain ⟨new, others⟩ := List.nodup_cons.mp once
      have own : g.HasDepth id depth := level id (List.mem_cons_self ..)
      have beside : ∀ other ∈ rest, g.HasDepth other depth := fun other member =>
        level other (List.mem_cons_of_mem id member)
      have under : ∀ x ∈ below, g.Above id x := by
        intro x member
        obtain ⟨child, first, way⟩ := inner.mem_iff.mp member
        simp only [forest.linked] at first way
        exact .head' first way
      -- an entity of the rest that leads to the same one would be `id` itself
      have apart : ∀ x ∈ after,
          ¬ ReflTransGen (fun parent child => g.parent? child = some parent) id x := by
        intro x member way
        obtain ⟨other, inside, again⟩ := outer.mem_iff.mp member
        simp only [forest.linked] at again
        exact new (own.eq_of_below (beside other inside) way again ▸ inside)
      have deeper : below.Nodup :=
        ihBelow (forest.once id) fun child member => .child (forest.linked.mp member) own
      have later : after.Nodup := ihAfter others beside
      refine List.nodup_cons.mpr ⟨?_, deeper.append later ?_⟩
      · intro member
        rcases List.mem_append.mp member with inside | behind
        · exact Nat.lt_irrefl depth (own.lt_of_above own (under id inside))
        · exact apart id behind .refl
      · intro x inside behind
        exact apart x behind (under x inside).to_reflTransGen

namespace Forest

/-- The recursion over the children, without a bound. -/
theorem descendants_eq (forest : g.Forest) (id : EntityId) :
    g.descendants id = (g.children id).flatMap fun child => child :: g.descendants child :=
  (forest.preorder_descendants id).unique
    (Preorder.flatMap fun child _ => forest.preorder_descendants child)

theorem nodup_descendants (forest : g.Forest) (id : EntityId) : (g.descendants id).Nodup := by
  obtain ⟨depth, deep⟩ := forest.rooted id
  exact (forest.preorder_descendants id).nodup forest (forest.once id) fun child member =>
    .child (forest.linked.mp member) deep

theorem length_descendants_le (forest : g.Forest) (id : EntityId) :
    (g.descendants id).length ≤ g.size := by
  have inside : ∀ x ∈ g.descendants id, x < g.size := by
    intro x member
    obtain ⟨_, -, link⟩ := TransGen.tail'_iff.mp (forest.mem_descendants_iff.mp member)
    exact lt_of_parent? link
  have fits : (g.descendants id).length ≤ (List.range g.size).length :=
    (forest.nodup_descendants id).length_le_of_subset fun x member =>
      List.mem_range.mpr (inside x member)
  rwa [List.length_range] at fits

end Forest

/-! ## Walks with a stack -/

/-- How far a walk has come: the entities that it met, and a stack of pending ones whose top comes
last. -/
structure Walk where
  met : List EntityId
  stack : List EntityId

namespace Walk

/-- The walk over what stands below an entity, before its first round. -/
def below (g : Graph) (id : EntityId) : Walk := ⟨[], (g.children id).reverse⟩

/-- In one round the top of the stack is met, and its children are put in its place, the first one
on top.  A walk without pending entities has ended. -/
def round (g : Graph) (walk : Walk) : Option Walk :=
  walk.stack.getLast?.map fun next =>
    ⟨walk.met ++ [next], walk.stack.dropLast ++ (g.children next).reverse⟩

/-- The walk after some rounds, or when it has ended. -/
def run (g : Graph) : Nat → Walk → Walk
  | 0, walk => walk
  | rounds + 1, walk =>
      match walk.round g with
      | none => walk
      | some later => run g rounds later

/-- What a walk has yet to meet: every pending entity and what stands below it. -/
def remaining (g : Graph) (walk : Walk) : List EntityId :=
  walk.stack.reverse.flatMap fun id => id :: g.descendants id

variable {walk later : Walk}

/-- A walk ends when nothing is left, and a round meets the first entity of what is left. -/
theorem round_remaining (forest : g.Forest) (walk : Walk) :
    (walk.round g = none ∧ walk.stack = [] ∧ walk.remaining g = []) ∨
      ∃ next later, walk.round g = some later ∧ later.met = walk.met ++ [next] ∧
        walk.remaining g = next :: later.remaining g := by
  obtain ⟨met, stack⟩ := walk
  rcases List.eq_nil_or_concat stack with rfl | ⟨rest, next, rfl⟩
  · exact .inl ⟨rfl, rfl, rfl⟩
  · refine .inr ⟨next, ⟨met ++ [next], rest ++ (g.children next).reverse⟩, ?_, rfl, ?_⟩
    · simp [round]
    · simp only [remaining, List.concat_eq_append, List.reverse_append, List.reverse_reverse,
        List.flatMap_append]
      rw [← forest.descendants_eq next]
      simp

/-- Enough rounds bring a walk to its end, where it has met all that was left. -/
theorem run_eq (forest : g.Forest) {rounds : Nat} (enough : (walk.remaining g).length ≤ rounds) :
    walk.run g rounds = ⟨walk.met ++ walk.remaining g, []⟩ := by
  induction rounds generalizing walk with
  | zero =>
      rcases round_remaining forest walk with ⟨-, empty, none⟩ | ⟨next, later, -, -, more⟩
      · rw [none, List.append_nil, run, ← empty]
      · rw [more] at enough
        cases enough
  | succ rounds ih =>
      rcases round_remaining forest walk with ⟨ended, empty, none⟩ | ⟨next, later, going, met, more⟩
      · simp only [run, ended]
        rw [none, List.append_nil, ← empty]
      · rw [more, List.length_cons] at enough
        simp only [run, going]
        rw [ih (Nat.le_of_succ_le_succ enough), met, more, List.append_assoc, List.singleton_append]

end Walk

/-- The walk with a stack comes to its end, within as many rounds as there are entities, and meets
every child followed by its own descendants: each proper descendant once and nothing else. -/
theorem Reachable.descendants_preorder (reachable : g.Reachable) (id : EntityId) :
    (∀ rounds, g.size ≤ rounds → (Walk.below g id).run g rounds = ⟨g.descendants id, []⟩) ∧
      g.descendants id = (g.children id).flatMap (fun child => child :: g.descendants child) ∧
      (g.descendants id).Nodup ∧ ∀ x, x ∈ g.descendants id ↔ g.Above id x := by
  have forest := reachable.forest
  have whole : (Walk.below g id).remaining g = g.descendants id := by
    rw [Walk.remaining, Walk.below, List.reverse_reverse, ← forest.descendants_eq]
  refine ⟨?_, forest.descendants_eq id, forest.nodup_descendants id, ?_⟩
  · intro rounds enough
    have fits := Nat.le_trans (forest.length_descendants_le id) enough
    rw [Walk.run_eq forest (whole.symm ▸ fits), whole]
    rfl
  · exact fun x => forest.mem_descendants_iff

/-- The hand of the first arm comes before the second arm. -/
theorem descendants_preorder_arms :
    arms.Reachable ∧ (Walk.below arms 0).run arms 4 = ⟨[1, 3, 2], []⟩ ∧
      (arms.descendants 0).Nodup ∧ arms.Above 0 3 := by
  have reachable : arms.Reachable := Reachable.start.applyAll _
  have listed : arms.descendants 0 = [1, 3, 2] := by decide
  obtain ⟨walks, -, once, members⟩ := reachable.descendants_preorder 0
  refine ⟨reachable, ?_, once, (members 3).mp (by rw [listed]; decide)⟩
  rw [walks 4 (by decide), listed]

end GameScenes.Scene.Graph
