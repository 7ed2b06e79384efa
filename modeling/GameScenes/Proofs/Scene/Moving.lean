import GameScenes.Proofs.Scene.Reachable

/-!
# Moves between forests

The graphs that come about in a run are forests (`Reachable.forest`), so that a move is granted
exactly if both entities exist and it closes no cycle.  A granted move changes one parent and the
lists of the former and the new one; a refused move changes nothing (`Reachable.setParent_moves`).
-/

set_option autoImplicit false

namespace GameScenes.Scene

/-- An entity apart from its links to others. -/
def Entity.alone (e : Entity) : Entity := { e with parent := none, children := [] }

namespace Graph

variable {g h : Graph} {id child parent : EntityId}

theorem mayMove_iff :
    g.MayMove child parent ↔
      child < g.size ∧ parent < g.size ∧ child ≠ parent ∧ ¬ g.Above child parent := by
  rw [MayMove, Relation.reflTransGen_iff_eq_or_transGen, not_or, ne_comm]
  rfl

/-- What a move changes: the parent of one entity, and the lists that it leaves and joins. -/
structure Moved (g h : Graph) (child parent : EntityId) : Prop where
  placed : h.parent? child = some parent
  joined : h.children parent = (g.children parent).erase child ++ [child]
  left : ∀ former, g.parent? child = some former → former ≠ parent →
    h.children former = (g.children former).erase child
  parents : ∀ id, id ≠ child → h.parent? id = g.parent? id
  lists : ∀ id, id ≠ parent → g.parent? child ≠ some id → h.children id = g.children id
  others : ∀ id, (h.get? id).map Entity.alone = (g.get? id).map Entity.alone

theorem Forest.children_link_eq_erase (forest : g.Forest) (there : parent < g.size)
    (child i : EntityId) :
    (g.link child parent).children i =
      (g.children i).erase child ++ if parent = i then [child] else [] := by
  rw [forest.children_link there, (forest.once i).erase_eq_filter]

theorem Forest.moved_link (forest : g.Forest) (inside : child < g.size) (there : parent < g.size) :
    Moved g (g.link child parent) child parent where
  placed := by rw [parent?_link inside, if_pos rfl]
  joined := by rw [forest.children_link_eq_erase there, if_pos rfl]
  left former _ other := by
    rw [forest.children_link_eq_erase there, if_neg other.symm, List.append_nil]
  parents id other := by rw [parent?_link inside, if_neg other.symm]
  lists id other apart := by
    have absent : child ∉ g.children id := fun member => apart (forest.linked.mp member)
    rw [forest.children_link_eq_erase there, if_neg other.symm, List.append_nil,
      List.erase_of_not_mem absent]
  others id := by
    rw [get?_link, Option.map_map]
    rfl

/-- A move is granted exactly if both entities exist, differ and the one to be moved does not stand
above the other.  A refused move changes nothing; a granted one makes the entity the last child of
its new parent, closes the gap that it leaves, and changes nothing else. -/
theorem Reachable.setParent_moves (reachable : g.Reachable) (child parent : EntityId) :
    ((g.setParent? child parent).isSome = true ↔
        child < g.size ∧ parent < g.size ∧ child ≠ parent ∧ ¬ g.Above child parent) ∧
      (g.setParent? child parent = none → g.apply (.setParent child parent) = g) ∧
      ∀ h, g.setParent? child parent = some h →
        g.apply (.setParent child parent) = h ∧ Moved g h child parent := by
  have forest := reachable.forest
  refine ⟨?_, ?_, ?_⟩
  · rw [← mayMove_iff, ← Option.ne_none_iff_isSome, Ne, forest.setParent?_eq_none_iff, not_not]
  · intro refused
    rw [Graph.apply, refused]
    rfl
  · intro h granted
    have free : g.MayMove child parent := by
      by_contra refused
      rw [forest.setParent?_eq_none_iff.mpr refused] at granted
      cases granted
    have moved := forest.moved_link free.1 free.2.1
    rw [forest.setParent?_of_mayMove free] at granted
    cases granted
    refine ⟨?_, moved⟩
    rw [Graph.apply, forest.setParent?_of_mayMove free]
    rfl

/-- A root with two arms, of which the first one has a hand. -/
def arms : Graph :=
  empty.applyAll [.spawn "Root" none, .spawn "Left" (some 0), .spawn "Right" (some 0),
    .spawn "Hand" (some 1)]

/-- Moved below its own parent an entity comes last; below its own child it cannot be moved. -/
theorem setParent_moves_arms :
    arms.Reachable ∧ arms.setParent? 1 3 = none ∧ arms.apply (.setParent 1 3) = arms ∧
      ∃ h, arms.setParent? 1 0 = some h ∧ Moved arms h 1 0 ∧ h.children 0 = [2, 1] := by
  have reachable : arms.Reachable := Reachable.start.applyAll _
  have refused : arms.setParent? 1 3 = none := by decide
  obtain ⟨h, granted⟩ := Option.isSome_iff_exists.mp (show (arms.setParent? 1 0).isSome by decide)
  have moved := ((reachable.setParent_moves 1 0).2.2 h granted).2
  refine ⟨reachable, refused, (reachable.setParent_moves 1 3).2.1 refused, h, granted, moved, ?_⟩
  rw [moved.joined]
  decide

end Graph

end GameScenes.Scene
