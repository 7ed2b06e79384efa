import GameScenes.Proofs.Scene.Orderly
import Mathlib.Data.List.Nodup
import Mathlib.Logic.Relation

/-!
# Forests

The links of a well-formed graph make it a forest (`Graph.Forest`): parents and lists of children
say the same, and every way along the parents ends at a root.  Such a way has fewer steps than there
are entities, so that the bound on walks never cuts one short: `Graph.descendants` gives exactly the
proper descendants, every entity before what stands below it (`Forest.preorder_descendants`,
`Forest.mem_descendants_iff`).
-/

set_option autoImplicit false

namespace GameScenes.Scene.Graph

open Relation (ReflTransGen TransGen)

variable {g : Graph} {id child parent : EntityId} {depth : Nat}

/-! ## Depths -/

/-- That an entity without a parent is reached after so many steps along parents. -/
inductive HasDepth (g : Graph) : EntityId → Nat → Prop
  | root {id : EntityId} : g.parent? id = none → HasDepth g id 0
  | child {child parent : EntityId} {depth : Nat} :
      g.parent? child = some parent → HasDepth g parent depth → HasDepth g child (depth + 1)

theorem HasDepth.unique {other : Nat} (deep : g.HasDepth id depth) (same : g.HasDepth id other) :
    depth = other := by
  induction deep generalizing other with
  | root top =>
      cases same with
      | root => rfl
      | child above => cases top.symm.trans above
  | child above _ ih =>
      cases same with
      | root top => cases top.symm.trans above
      | child again further =>
          cases above.symm.trans again
          rw [ih further]

/-- That the links between entities make a graph a forest. -/
structure Forest (g : Graph) : Prop where
  position : ∀ {id e}, g.get? id = some e → e.id = id
  linked : ∀ {parent child}, child ∈ g.children parent ↔ g.parent? child = some parent
  once : ∀ id, (g.children id).Nodup
  rooted : ∀ id, ∃ depth, g.HasDepth id depth

theorem lt_of_parent? (above : g.parent? child = some parent) : child < g.size := by
  obtain ⟨e, found, -⟩ := Option.bind_eq_some_iff.mp above
  exact lt_size found

theorem lt_of_mem_children (member : child ∈ g.children id) : id < g.size := by
  unfold children at member
  cases found : g.get? id with
  | none => simp [found] at member
  | some e => exact lt_size found

theorem children_of_get? {e : Entity} (found : g.get? id = some e) :
    g.children id = e.children := by
  simp [children, found]

theorem Orderly.spawn (orderly : g.Orderly) (name : String) (parent : Option EntityId)
    (valid : ∀ p, parent = some p → p < g.size) : (g.spawn name parent).1.Orderly := by
  rw [spawn_eq_add]
  exact orderly.add name valid fun _ => rfl

/-- A graph that is only ever extended is a forest. -/
theorem Orderly.forest (orderly : g.Orderly) : g.Forest where
  position := orderly.position
  linked := by
    intro parent child
    constructor
    · intro member
      obtain ⟨e, found⟩ := exists_of_lt (lt_of_mem_children member)
      rw [children_of_get? found, orderly.children found, mem_childrenOf] at member
      exact member.2
    · intro above
      have inside := lt_of_parent? above
      obtain ⟨own, there⟩ := exists_of_lt inside
      rw [parent?_of_get? there] at above
      have outside : parent < g.size := Nat.lt_trans (orderly.before there above) inside
      obtain ⟨e, found⟩ := exists_of_lt outside
      rw [children_of_get? found, orderly.children found, mem_childrenOf, parent?_of_get? there]
      exact ⟨inside, above⟩
  once := by
    intro id
    cases found : g.get? id with
    | none => simp [Graph.children, found]
    | some e =>
        rw [children_of_get? found, orderly.children found]
        exact (childrenOf_pairwise g id).imp Nat.ne_of_lt
  rooted := by
    intro id
    induction id using Nat.strongRecOn with
    | ind id ih =>
        cases above : g.parent? id with
        | none => exact ⟨0, .root above⟩
        | some parent =>
            obtain ⟨own, there, named⟩ := Option.bind_eq_some_iff.mp above
            obtain ⟨depth, deep⟩ := ih parent (orderly.before there named)
            exact ⟨depth + 1, .child above deep⟩

namespace Forest

theorem parent_lt (forest : g.Forest) (above : g.parent? child = some parent) :
    parent < g.size :=
  lt_of_mem_children (forest.linked.mpr above)

/-- An entity and its ancestors, of which no two have the same depth. -/
theorem exists_line (forest : g.Forest) (deep : g.HasDepth id depth) (inside : id < g.size) :
    ∃ line : List EntityId, line.length = depth + 1 ∧ line.Nodup ∧
      ∀ x ∈ line, x < g.size ∧ ∃ k ≤ depth, g.HasDepth x k := by
  induction deep with
  | @root id top =>
      refine ⟨[id], rfl, List.nodup_singleton id, ?_⟩
      simpa using ⟨inside, HasDepth.root top⟩
  | @child child parent depth above deep ih =>
      obtain ⟨line, length, nodup, within⟩ := ih (forest.parent_lt above)
      have own : g.HasDepth child (depth + 1) := .child above deep
      have new : child ∉ line := by
        intro member
        obtain ⟨-, k, less, other⟩ := within child member
        cases own.unique other
        exact Nat.not_succ_le_self depth less
      refine ⟨child :: line, by rw [List.length_cons, length], List.nodup_cons.mpr ⟨new, nodup⟩, ?_⟩
      intro x member
      rcases List.mem_cons.mp member with rfl | further
      · exact ⟨inside, depth + 1, Nat.le_refl _, own⟩
      · obtain ⟨exists_, k, less, has⟩ := within x further
        exact ⟨exists_, k, Nat.le_succ_of_le less, has⟩

theorem depth_lt (forest : g.Forest) (deep : g.HasDepth id depth) (inside : id < g.size) :
    depth < g.size := by
  obtain ⟨line, length, nodup, within⟩ := forest.exists_line deep inside
  have fits : line.length ≤ (List.range g.size).length :=
    nodup.length_le_of_subset fun x member => List.mem_range.mpr (within x member).1
  rwa [length, List.length_range] at fits

end Forest

/-! ## Pre-order -/

/-- That an order lists some entities one after the other, each one before all that stand below
it. -/
inductive Preorder (g : Graph) : List EntityId → List EntityId → Prop
  | nil : Preorder g [] []
  | cons {id : EntityId} {rest below after : List EntityId} :
      Preorder g (g.children id) below → Preorder g rest after →
        Preorder g (id :: rest) (id :: (below ++ after))

namespace Preorder

variable {ids order : List EntityId}

theorem unique {other : List EntityId} (listed : g.Preorder ids order)
    (again : g.Preorder ids other) : order = other := by
  induction listed generalizing other with
  | nil => cases again; rfl
  | cons _ _ inner later =>
      cases again with
      | cons below after => rw [inner below, later after]

theorem flatMap {below : EntityId → List EntityId}
    (each : ∀ id ∈ ids, g.Preorder (g.children id) (below id)) :
    g.Preorder ids (ids.flatMap fun id => id :: below id) := by
  induction ids with
  | nil => exact .nil
  | cons id rest ih =>
      rw [List.flatMap_cons, List.cons_append]
      exact .cons (each id (List.mem_cons_self ..))
        (ih fun id member => each id (List.mem_cons_of_mem _ member))

theorem mem_iff (listed : g.Preorder ids order) {x : EntityId} :
    x ∈ order ↔
      ∃ id ∈ ids, ReflTransGen (fun parent child => child ∈ g.children parent) id x := by
  induction listed with
  | nil => simp
  | @cons id rest below after _ _ inner later =>
      simp only [List.mem_cons, List.mem_append, inner, later, exists_eq_or_imp]
      rw [← or_assoc, ReflTransGen.cases_head_iff]
      simp only [eq_comm]

end Preorder

namespace Forest

theorem preorder_descendantsWithin (forest : g.Forest) {bound : Nat}
    (deep : g.HasDepth id depth) (enough : g.size ≤ depth + bound) :
    g.Preorder (g.children id) (g.descendantsWithin bound id) := by
  have lower : ∀ child ∈ g.children id, g.HasDepth child (depth + 1) := fun child member =>
    .child (forest.linked.mp member) deep
  induction bound generalizing id depth with
  | zero =>
      -- no entity is as deep as a child would be
      have none : g.children id = [] := by
        rw [List.eq_nil_iff_forall_not_mem]
        intro child member
        have less := forest.depth_lt (lower child member)
          (lt_of_parent? (forest.linked.mp member))
        omega
      rw [none]
      exact .nil
  | succ bound ih =>
      refine Preorder.flatMap fun child member => ?_
      have deeper := lower child member
      exact ih deeper (by omega) fun next below => .child (forest.linked.mp below) deeper

/-- The descendants of an entity stand in pre-order, and none is missing. -/
theorem preorder_descendants (forest : g.Forest) (id : EntityId) :
    g.Preorder (g.children id) (g.descendants id) := by
  obtain ⟨depth, deep⟩ := forest.rooted id
  exact forest.preorder_descendantsWithin deep (Nat.le_add_left ..)

theorem mem_descendants_iff (forest : g.Forest) :
    child ∈ g.descendants id ↔
      TransGen (fun parent child => g.parent? child = some parent) id child := by
  rw [(forest.preorder_descendants id).mem_iff, TransGen.head'_iff]
  simp only [forest.linked]

end Forest

end GameScenes.Scene.Graph
