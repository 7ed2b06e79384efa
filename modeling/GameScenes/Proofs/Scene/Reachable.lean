import GameScenes.Proofs.Scene.Reparenting
import Mathlib.Data.Finset.Card

/-!
# Reachable graphs

The graphs that come about in a run are exactly the forests (`reachable_iff_forest`): no change and no
edit breaks a forest, and any forest comes about by making its entities and moving them below their
parents one after the other, the last child of a list last.
-/

set_option autoImplicit false

namespace GameScenes.Scene.Graph

open Relation (ReflTransGen TransGen)

variable {g h : Graph} {id child parent : EntityId}

/-- That an entity is a proper ancestor of another. -/
def Above (g : Graph) (ancestor id : EntityId) : Prop :=
  TransGen (fun parent child => g.parent? child = some parent) ancestor id

/-- What stands below an entity is deeper. -/
theorem HasDepth.lt_of_above {top low : EntityId} {high deep : Nat} (upper : g.HasDepth top high)
    (lower : g.HasDepth low deep) (above : g.Above top low) : high < deep := by
  induction above generalizing deep with
  | single link =>
      cases lower with
      | root none => cases none.symm.trans link
      | child own further =>
          cases own.symm.trans link
          rw [upper.unique further]
          exact Nat.lt_succ_self _
  | tail _ link ih =>
      cases lower with
      | root none => cases none.symm.trans link
      | child own further =>
          cases own.symm.trans link
          exact Nat.lt_succ_of_lt (ih further)

/-- The graphs that come about by changes and by edits of entities that leave the links alone. -/
inductive Reachable : Graph → Prop
  | start : Reachable empty
  | change {g : Graph} (change : Change) : Reachable g → Reachable (g.apply change)
  | edit {g : Graph} (id : EntityId) {edit : Entity → Entity} :
      (∀ e, (edit e).links = e.links) → Reachable g → Reachable (g.modify id edit)

theorem Reachable.forest (reachable : g.Reachable) : g.Forest := by
  induction reachable with
  | start => exact orderly_empty.forest
  | change change _ ih => exact ih.apply change
  | edit id links _ ih => exact ih.modify id links

theorem Reachable.applyAll (reachable : g.Reachable) (changes : List Change) :
    (g.applyAll changes).Reachable := by
  induction changes generalizing g with
  | nil => exact reachable
  | cons change later ih => exact ih (.change change reachable)

/-! ## Graphs without links -/

theorem Reachable.push (reachable : g.Reachable) {e : Entity} (bare : e.links = (g.size, none, [])) :
    (g.push e).Reachable := by
  have made : ((g.spawn e.name none).1.modify g.size fun old =>
      { e with id := old.id, parent := old.parent, children := old.children }) = g.push e := by
    apply eq_of_get?
    intro i
    have fields : e.id = g.size ∧ e.parent = none ∧ e.children = [] := by
      simpa [Entity.links] using bare
    show ((g.push (Entity.blank g.size e.name)).modify g.size _).get? i = _
    rw [get?_modify, get?_push, get?_push]
    by_cases new : i = g.size
    · subst new
      obtain ⟨id, up, down⟩ := fields
      simp [Entity.blank, ← id, ← up, ← down]
    · simp [new, Ne.symm new]
  rw [← made]
  exact .edit g.size (fun _ => rfl) (.change (.spawn e.name none) reachable)

/-- Entities without links come about one after the other. -/
theorem reachable_of_unlinked (bare : ∀ {i e}, g.get? i = some e → e.links = (i, none, [])) :
    g.Reachable := by
  obtain ⟨⟨entities⟩⟩ := g
  induction entities using List.reverseRecOn with
  | nil => exact .start
  | append_singleton earlier e ih =>
      have split : (⟨⟨earlier ++ [e]⟩⟩ : Graph) = (⟨⟨earlier⟩⟩ : Graph).push e := by
        simp [Graph.push]
      rw [split] at bare ⊢
      refine Reachable.push (ih ?_) (bare ?_)
      · intro i before found
        refine bare ?_
        rw [get?_push, if_neg (Nat.ne_of_lt (lt_size found)), found]
      · rw [get?_push, if_pos rfl]

/-! ## Links one after the other -/

/-- A graph with the last child of an entity made a root. -/
def release (g : Graph) (child parent : EntityId) : Graph :=
  (g.modify parent fun e => { e with children := e.children.dropLast }).modify child
    fun e => { e with parent := none }

theorem get?_release (g : Graph) (child parent i : EntityId) :
    (g.release child parent).get? i = (g.get? i).map fun e =>
      { e with
        parent := if child = i then none else e.parent
        children := if parent = i then e.children.dropLast else e.children } := by
  unfold release
  cases found : g.get? i with
  | none => simp [get?_modify, found]
  | some e =>
      by_cases own : child = i <;> by_cases owner : parent = i <;>
        simp [get?_modify, found, own, owner]

@[simp] theorem size_release (g : Graph) (child parent : EntityId) :
    (g.release child parent).size = g.size := by
  simp [release]

theorem parent?_release (g : Graph) (child parent i : EntityId) :
    (g.release child parent).parent? i = if child = i then none else g.parent? i := by
  rw [parent?, get?_release, parent?]
  by_cases own : child = i
  · cases g.get? i <;> simp [own]
  · rw [if_neg own, Option.bind_map]
    simp only [own, if_false]
    rfl

theorem children_release (g : Graph) (child parent i : EntityId) :
    (g.release child parent).children i =
      if parent = i then (g.children i).dropLast else g.children i := by
  rw [children_eq, get?_release, children_eq]
  cases g.get? i <;> by_cases owner : parent = i <;> simp [owner]

section

variable {front : List EntityId} (forest : g.Forest) (last : g.children parent = front ++ [child])

include forest last

theorem parent?_of_last : g.parent? child = some parent :=
  forest.linked.mp (by simp [last])

theorem forest_release : (g.release child parent).Forest where
  position := by
    intro i e found
    rw [get?_release] at found
    obtain ⟨old, place, rfl⟩ := Option.map_eq_some_iff.mp found
    have own : old.id = i := forest.position place
    exact own
  linked := by
    have once : (front ++ [child]).Nodup := last ▸ forest.once parent
    have absent : child ∉ front := fun member =>
      (List.nodup_append.mp once).2.2 child member child (List.mem_singleton_self child) rfl
    intro owner x
    rw [children_release, parent?_release]
    by_cases own : child = x
    · subst own
      by_cases former : parent = owner
      · subst former
        simpa [last] using absent
      · have other : child ∉ g.children owner := fun member =>
          former (Option.some.inj ((parent?_of_last forest last).symm.trans
            (forest.linked.mp member)))
        simpa [former] using other
    · rw [if_neg own, ← forest.linked]
      by_cases former : parent = owner
      · subst former
        simp [last, Ne.symm own]
      · simp [former]
  once := by
    intro i
    rw [children_release]
    split
    · exact (List.dropLast_sublist _).nodup (forest.once i)
    · exact forest.once i
  rooted := by
    intro i
    obtain ⟨depth, deep⟩ := forest.rooted i
    induction deep with
    | @root i top =>
        refine ⟨0, .root ?_⟩
        rw [parent?_release, top]
        split <;> rfl
    | @child i above depth up _ ih =>
        by_cases own : child = i
        · refine ⟨0, .root ?_⟩
          rw [parent?_release, if_pos own]
        · obtain ⟨new, way⟩ := ih
          refine ⟨new + 1, .child ?_ way⟩
          rw [parent?_release, if_neg own, up]

/-- The entity that was released may be moved back: no way along parents leads round. -/
theorem mayMove_release : (g.release child parent).MayMove child parent := by
  have link := parent?_of_last forest last
  refine ⟨?_, ?_, ?_⟩
  · rw [size_release]
    exact lt_of_parent? link
  · rw [size_release]
    exact forest.parent_lt link
  · intro way
    have kept : ∀ above below, (g.release child parent).parent? below = some above →
        g.parent? below = some above := by
      intro above below up
      rw [parent?_release] at up
      split at up
      · cases up
      · exact up
    obtain ⟨depth, deep⟩ := forest.rooted child
    have round : g.Above child child := .tail' (ReflTransGen.mono kept child parent way) link
    exact Nat.lt_irrefl depth (deep.lt_of_above deep round)

theorem link_release : (g.release child parent).link child parent = g := by
  apply eq_of_get?
  intro i
  have root : (g.release child parent).parent? child = none := by
    rw [parent?_release, if_pos rfl]
  rw [get?_link, get?_release, root, Option.map_map]
  cases found : g.get? i with
  | none => rfl
  | some e =>
      have up : (if child = i then some parent else if child = i then none else e.parent) =
          e.parent := by
        split
        next own => rw [← parent?_of_get? found, ← own, parent?_of_last forest last]
        · rfl
      have down : (if parent = i then e.children.dropLast else e.children) ++
          (if parent = i then [child] else []) = e.children := by
        split
        next owner =>
          rw [← children_of_get? found, ← owner, last, List.dropLast_concat]
        · exact List.append_nil _
      simp only [Option.map_some, Function.comp, reduceCtorEq, if_false, up, down]

end

/-- The entities that stand below another one. -/
def nonRoots (g : Graph) : Finset EntityId :=
  (Finset.range g.size).filter fun id => (g.parent? id).isSome

theorem mem_nonRoots : id ∈ g.nonRoots ↔ ∃ parent, g.parent? id = some parent := by
  rw [nonRoots, Finset.mem_filter, Finset.mem_range, Option.isSome_iff_exists]
  refine and_iff_right_of_imp ?_
  rintro ⟨parent, link⟩
  exact lt_of_parent? link

theorem nonRoots_release_ssubset (link : g.parent? child = some parent) :
    (g.release child parent).nonRoots ⊂ g.nonRoots := by
  rw [Finset.ssubset_iff_of_subset]
  · refine ⟨child, mem_nonRoots.mpr ⟨parent, link⟩, ?_⟩
    simp [mem_nonRoots, parent?_release]
  · intro id member
    obtain ⟨above, up⟩ := mem_nonRoots.mp member
    rw [parent?_release] at up
    split at up
    · cases up
    · exact mem_nonRoots.mpr ⟨above, up⟩

/-- The last child of a list is released, the rest comes about, and the child is moved back. -/
theorem Forest.reachable (forest : g.Forest) : g.Reachable := by
  induction count : g.nonRoots.card using Nat.strongRecOn generalizing g with
  | ind count ih =>
      by_cases none : ∀ parent, g.children parent = []
      · refine reachable_of_unlinked fun {i e} found => ?_
        have root : e.parent = .none := by
          rw [← parent?_of_get? found, Option.eq_none_iff_forall_not_mem]
          intro parent link
          have member := forest.linked.mpr link
          rw [none parent] at member
          cases member
        rw [Entity.links, forest.position found, root, ← children_of_get? found, none i]
      · push Not at none
        obtain ⟨parent, filled⟩ := none
        obtain ⟨front, child, last⟩ := (List.eq_nil_or_concat' _).resolve_left filled
        have link := parent?_of_last forest last
        have fewer := Finset.card_lt_card (nonRoots_release_ssubset link)
        have earlier := ih _ (count ▸ fewer) (forest_release forest last) rfl
        have free := mayMove_release forest last
        have back := Reachable.change (.setParent child parent) earlier
        rw [Graph.apply, (forest_release forest last).setParent?_of_mayMove free,
          Option.getD_some, link_release forest last] at back
        exact back

/-- The graphs that come about are exactly the forests. -/
theorem reachable_iff_forest : g.Reachable ↔ g.Forest :=
  ⟨Reachable.forest, Forest.reachable⟩

end GameScenes.Scene.Graph
