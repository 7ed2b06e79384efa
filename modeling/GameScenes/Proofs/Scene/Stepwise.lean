import GameScenes.Proofs.Scene.Settling
import Mathlib.Data.List.Induction

/-!
# The steps of a run

A run moves one entity at a time.  Its steps (`alignmentSteps`) give both of its results: the graph
that it leaves is the first one moved step by step (`replay`), and what it has on record of an entity
is the sum of that entity's own steps (`moveOf_recorded`).
-/

set_option autoImplicit false

namespace GameScenes.Scene.Graph

/-! ## Steps -/

/-- A graph moved step by step. -/
def replay (g : Graph) (steps : List Alignment) : Graph :=
  steps.foldl (fun g step => g.translateWorld step.entity ⟨0, step.deltaY⟩) g

/-- The steps on record after some more. -/
def recorded (moves steps : List Alignment) : List Alignment :=
  steps.foldl (fun moves step => recordMove step moves) moves

/-- The steps of one pass. -/
def passSteps (grounds : List EntityId) : List EntityId → Graph → List Alignment
  | [], _ => []
  | entity :: rest, g =>
      match g.pendingMove? grounds entity with
      | none => passSteps grounds rest g
      | some step => step :: passSteps grounds rest (g.translateWorld entity ⟨0, step.deltaY⟩)

/-- The steps of passes until one has none, at most as many passes as given. -/
def stepsWithin (grounds movers : List EntityId) : Nat → Graph → List Alignment
  | 0, _ => []
  | bound + 1, g =>
      let pass := passSteps grounds movers g
      if pass.isEmpty then []
      else pass ++ stepsWithin grounds movers bound (g.replay pass)

/-- The steps of a run. -/
def alignmentSteps (g : Graph) (groundLayer : Option Nat) : List Alignment :=
  stepsWithin (g.grounds groundLayer) g.movers (g.movers.length + 1) g

variable {grounds movers : List EntityId} {g : Graph} {entity id : EntityId} {step : Alignment}

theorem replay_append (g : Graph) (first later : List Alignment) :
    g.replay (first ++ later) = (g.replay first).replay later := List.foldl_append

theorem recorded_append (moves first later : List Alignment) :
    recorded moves (first ++ later) = recorded (recorded moves first) later := List.foldl_append

theorem entity_of_pendingMove? (pending : g.pendingMove? grounds entity = some step) :
    step.entity = entity := by
  unfold pendingMove? at pending
  split at pending
  · cases pending
  · split at pending
    · cases pending
    · simp only [Option.ite_none_left_eq_some, Option.some.injEq] at pending
      exact pending.2 ▸ rfl

theorem foldl_settle_eq (s : Settling) :
    movers.foldl (settle grounds) s =
      ⟨s.graph.replay (passSteps grounds movers s.graph),
        recorded s.moves (passSteps grounds movers s.graph),
        s.moved || !(passSteps grounds movers s.graph).isEmpty⟩ := by
  induction movers generalizing s with
  | nil => simp [passSteps, replay, recorded]
  | cons entity rest ih =>
      rw [List.foldl_cons]
      cases pending : s.graph.pendingMove? grounds entity with
      | none =>
          rw [settle_of_none pending, ih]
          simp only [passSteps, pending]
      | some step =>
          have own := entity_of_pendingMove? pending
          rw [settle_of_some pending, ih]
          simp only [passSteps, pending]
          simp [replay, recorded, own]

theorem passes_eq (bound : Nat) (g : Graph) (moves : List Alignment) :
    passes grounds movers bound g moves =
      (g.replay (stepsWithin grounds movers bound g),
        recorded moves (stepsWithin grounds movers bound g)) := by
  induction bound generalizing g moves with
  | zero => rfl
  | succ bound ih =>
      simp only [passes, stepsWithin, foldl_settle_eq, Bool.false_or]
      cases pass : passSteps grounds movers g with
      | nil => simp [replay, recorded]
      | cons first rest =>
          rw [ih, ← replay_append, ← recorded_append]
          simp

/-- Both results of a run from its steps. -/
theorem alignToGround_eq_replay (g : Graph) (groundLayer : Option Nat) :
    g.alignToGround groundLayer =
      (g.replay (g.alignmentSteps groundLayer),
        (recorded [] (g.alignmentSteps groundLayer)).filter
          fun a => alignTolerance < a.deltaY.abs) := by
  rw [alignToGround_eq, settlingRun, passes_eq]
  rfl

theorem mem_movers_of_mem_passSteps (member : step ∈ passSteps grounds movers g) :
    step.entity ∈ movers := by
  induction movers generalizing g with
  | nil => cases member
  | cons entity rest ih =>
      unfold passSteps at member
      split at member
      · exact List.mem_cons_of_mem _ (ih member)
      next pending =>
        rcases List.mem_cons.mp member with rfl | later
        · rw [entity_of_pendingMove? pending]
          exact List.mem_cons_self
        · exact List.mem_cons_of_mem _ (ih later)

theorem mem_movers_of_mem_stepsWithin {bound : Nat}
    (member : step ∈ stepsWithin grounds movers bound g) : step.entity ∈ movers := by
  induction bound generalizing g with
  | zero => cases member
  | succ bound ih =>
      simp only [stepsWithin] at member
      split at member
      · cases member
      · rcases List.mem_append.mp member with first | later
        · exact mem_movers_of_mem_passSteps first
        · exact ih later

/-! ## What is on record -/

/-- What is on record of an entity. -/
def moveOf (moves : List Alignment) (id : EntityId) : Option Float32 :=
  (moves.find? (·.entity == id)).map (·.deltaY)

/-- The steps of one entity. -/
def ownDeltas (steps : List Alignment) (id : EntityId) : List Float32 :=
  (steps.filter (·.entity == id)).map (·.deltaY)

/-- A sum of floats, from the first on; no floats have none. -/
def summed? : List Float32 → Option Float32
  | [] => none
  | d :: rest => some (rest.foldl (· + ·) d)

theorem summed?_concat (deltas : List Float32) (d : Float32) :
    summed? (deltas ++ [d]) = some ((summed? deltas).elim d (· + d)) := by
  cases deltas with
  | nil => rfl
  | cons first rest => simp [summed?]

theorem moveOf_cons (a : Alignment) (moves : List Alignment) (id : EntityId) :
    moveOf (a :: moves) id = if a.entity = id then some a.deltaY else moveOf moves id := by
  by_cases own : a.entity = id <;> simp [moveOf, own]

theorem moveOf_recordMove (step : Alignment) (moves : List Alignment) (id : EntityId) :
    moveOf (recordMove step moves) id =
      if step.entity = id then some ((moveOf moves id).elim step.deltaY (· + step.deltaY))
      else moveOf moves id := by
  induction moves with
  | nil => simp [recordMove, moveOf]
  | cons a rest ih =>
      simp only [recordMove]
      split
      case isTrue same =>
        by_cases own : step.entity = id <;> simp [moveOf_cons, same, own]
      case isFalse apart =>
        rw [moveOf_cons, moveOf_cons, ih]
        by_cases own : a.entity = id
        · have other : step.entity ≠ id := fun same => apart (own.trans same.symm)
          simp [own, other]
        · simp [own]

theorem mem_entities_recordMove (step : Alignment) (moves : List Alignment) (id : EntityId) :
    id ∈ (recordMove step moves).map (·.entity) → id = step.entity ∨ id ∈ moves.map (·.entity) := by
  induction moves with
  | nil => simp [recordMove]
  | cons a rest ih =>
      simp only [recordMove]
      split
      · exact .inr
      · intro member
        rcases List.mem_cons.mp member with same | later
        · exact .inr (same ▸ List.mem_cons_self)
        · exact (ih later).imp_right (List.mem_cons_of_mem _)

theorem nodup_recordMove (step : Alignment) {moves : List Alignment}
    (nodup : (moves.map (·.entity)).Nodup) : ((recordMove step moves).map (·.entity)).Nodup := by
  induction moves with
  | nil => simp [recordMove]
  | cons a rest ih =>
      obtain ⟨new, rest'⟩ := List.nodup_cons.mp nodup
      simp only [recordMove]
      split
      · exact nodup
      case isFalse apart =>
        refine List.nodup_cons.mpr ⟨fun member => ?_, ih rest'⟩
        rcases mem_entities_recordMove step rest a.entity member with same | later
        · exact apart same
        · exact new later

/-- What a run has on record: every entity at most once, with the sum of its own steps. -/
theorem recorded_spec (steps : List Alignment) :
    ((recorded [] steps).map (·.entity)).Nodup ∧
      ∀ id, moveOf (recorded [] steps) id = summed? (ownDeltas steps id) := by
  induction steps using List.reverseRec with
  | nil => exact ⟨List.nodup_nil, fun id => rfl⟩
  | append_singleton first step ih =>
      obtain ⟨nodup, sums⟩ := ih
      have last : recorded [] (first ++ [step]) = recordMove step (recorded [] first) := by
        rw [recorded_append]
        rfl
      rw [last]
      refine ⟨nodup_recordMove step nodup, fun id => ?_⟩
      rw [moveOf_recordMove, sums]
      by_cases own : step.entity = id
      · have deltas : ownDeltas (first ++ [step]) id = ownDeltas first id ++ [step.deltaY] := by
          simp [ownDeltas, own]
        rw [if_pos own, deltas, summed?_concat]
      · have deltas : ownDeltas (first ++ [step]) id = ownDeltas first id := by
          simp [ownDeltas, own]
        rw [if_neg own, deltas]

theorem moveOf_of_mem {moves : List Alignment} {a : Alignment}
    (nodup : (moves.map (·.entity)).Nodup) (member : a ∈ moves) :
    moveOf moves a.entity = some a.deltaY := by
  induction moves with
  | nil => cases member
  | cons first rest ih =>
      obtain ⟨new, rest'⟩ := List.nodup_cons.mp nodup
      rw [moveOf_cons]
      rcases List.mem_cons.mp member with rfl | later
      · rw [if_pos rfl]
      · have apart : first.entity ≠ a.entity := fun same =>
          new (List.mem_map.mpr ⟨a, later, same.symm⟩)
        rw [if_neg apart, ih rest' later]

/-- Every entry that a run reports names a mover, no two the same one, and gives the sum of the
mover's own steps. -/
theorem entries_spec (g : Graph) (groundLayer : Option Nat) :
    ((g.alignToGround groundLayer).2.map (·.entity)).Nodup ∧
      ∀ a ∈ (g.alignToGround groundLayer).2, a.entity ∈ g.movers ∧
        summed? (ownDeltas (g.alignmentSteps groundLayer) a.entity) = some a.deltaY ∧
        alignTolerance < a.deltaY.abs := by
  rw [alignToGround_eq_replay]
  obtain ⟨nodup, sums⟩ := recorded_spec (g.alignmentSteps groundLayer)
  refine ⟨nodup.sublist (List.filter_sublist.map _), fun a member => ?_⟩
  obtain ⟨inside, large⟩ := List.mem_filter.mp member
  have sum := (sums a.entity).symm.trans (moveOf_of_mem nodup inside)
  refine ⟨?_, sum, of_decide_eq_true large⟩
  cases own : ownDeltas (g.alignmentSteps groundLayer) a.entity with
  | nil =>
      rw [own] at sum
      cases sum
  | cons d rest =>
      have some : d ∈ ownDeltas (g.alignmentSteps groundLayer) a.entity :=
        own ▸ List.mem_cons_self
      obtain ⟨step, among, -⟩ := List.mem_map.mp some
      obtain ⟨taken, same⟩ := List.mem_filter.mp among
      rw [← eq_of_beq same]
      exact mem_movers_of_mem_stepsWithin taken

end GameScenes.Scene.Graph
