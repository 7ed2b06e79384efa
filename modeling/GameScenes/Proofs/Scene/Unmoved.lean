import GameScenes.Proofs.Scene.Frames

/-!
# What alignment leaves alone

A run moves one entity at a time, and what it moves are the movers that it found before its first
step.  So whatever the number of its passes, and whether they come to rest or not, every other entity
is in the end what it was, and a mover differs from what it was in its place in the plane at most
(`alignToGround_moves_movers`).
-/

set_option autoImplicit false

namespace GameScenes.Scene

/-- An entity put at another place in the plane of its parent. -/
def Entity.putAt (e : Entity) (x y : Float32) : Entity :=
  { e with transform := { e.transform with position := ⟨x, y, e.transform.position.z⟩ } }

namespace Graph

variable {g h : Graph} {id : EntityId} {e e' : Entity} {groundLayer : Option Nat}

theorem eq_putAt_of_unplaced (alike : unplaced e' = unplaced e) :
    e' = e.putAt e'.transform.position.x e'.transform.position.y := by
  generalize place : e'.transform.position = p
  calc e' = (unplaced e').putAt p.x p.y := by rw [← place]; rfl
    _ = (unplaced e).putAt p.x p.y := by rw [alike]
    _ = e.putAt p.x p.y := rfl

/-- Graphs that differ in places have the same entities elsewhere in the plane. -/
theorem AlikeUpToPlaces.putAt (alike : AlikeUpToPlaces h g) (found : g.get? id = some e) :
    ∃ x y, h.get? id = some (e.putAt x y) := by
  have same := alike.get? id
  rw [found, Option.map_some] at same
  obtain ⟨e', found', equal⟩ := Option.map_eq_some_iff.mp same
  exact ⟨_, _, found'.trans (congrArg some (eq_putAt_of_unplaced equal))⟩

theorem isMover_iff :
    isMover e = true ↔ e.components.visual.isSome ∧
      ∃ body ∈ e.components.body, body.kind = .dynamic := by
  unfold isMover
  cases e.components.body <;> simp

/-- A run moves movers only, under whatever identifiers they have. -/
theorem get?_alignToGround (still : ∀ e ∈ g.entities.toList, isMover e = true → e.id ≠ id) :
    (g.alignToGround groundLayer).1.get? id = g.get? id := by
  rw [alignToGround_eq_replay]
  refine get?_replay fun step member same => ?_
  obtain ⟨e, inside, mover, own, -⟩ :=
    (mem_movers_iff g step.entity).mp (mem_movers_of_mem_stepsWithin member)
  exact still e inside mover (own.trans same)

/-- Where every entity is found under its own identifier, an entity that is no mover is met by no
step. -/
theorem ne_of_not_mover (own : ∀ {i e}, g.get? i = some e → e.id = i) (found : g.get? id = some e)
    (still : isMover e ≠ true) : ∀ other ∈ g.entities.toList, isMover other = true → other.id ≠ id := by
  intro other inside mover same
  obtain ⟨i, there⟩ := List.mem_iff_getElem?.mp inside
  have place : g.get? i = some other := by
    rw [← there, Graph.get?, Array.getElem?_toList]
  rw [← own place, same, found, Option.some.injEq] at place
  exact still (place ▸ mover)

/-- A run makes and removes no entity.  Each keeps everything but its place in the plane of its
parent, and this as well unless it goes by the identifier of an entity with a picture and a dynamic
body.  Where every entity is found under its own identifier, all those without a picture or without a
dynamic body are left exactly as they were. -/
theorem alignToGround_moves_movers (g : Graph) (groundLayer : Option Nat) :
    (g.alignToGround groundLayer).1.size = g.size ∧
      (∀ id e, g.get? id = some e →
        ∃ x y, (g.alignToGround groundLayer).1.get? id = some (e.putAt x y)) ∧
      (∀ id, (∀ e ∈ g.entities.toList, isMover e = true → e.id ≠ id) →
        (g.alignToGround groundLayer).1.get? id = g.get? id) ∧
      ((∀ {id e}, g.get? id = some e → e.id = id) → ∀ id e, g.get? id = some e →
        ¬ (e.components.visual.isSome ∧ ∃ body ∈ e.components.body, body.kind = .dynamic) →
          (g.alignToGround groundLayer).1.get? id = some e) := by
  have alike := alignToGround_alikeUpToPlaces g groundLayer
  refine ⟨alike.size, fun id e found => alike.putAt found, fun id still => get?_alignToGround still, ?_⟩
  intro own id e found still
  rw [← isMover_iff] at still
  rw [get?_alignToGround (ne_of_not_mover own found still), found]

end Graph

end GameScenes.Scene
