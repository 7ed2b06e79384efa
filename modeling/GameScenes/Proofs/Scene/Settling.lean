import GameScenes.Scene.Alignment
import Mathlib.Data.List.Basic
import Mathlib.Tactic.ByContra

/-!
# Graphs that have come to rest

Aligning goes over the movers pass after pass.  A graph is settled when no mover needs a move; then,
and only then, another run moves nothing (`alignToGround_again_iff`).  A run whose passes do not all
move something leaves a settled graph behind.  Ground that is itself a mover need not come to rest:
two crates that are ground for each other climb on each other in every pass, and each run stops only
because its passes are counted (`crates_climb_again`).
-/

set_option autoImplicit false

namespace GameScenes.Scene.Graph

/-- Whether no entity that is to be aligned needs a move. -/
def Settled (g : Graph) (groundLayer : Option Nat) : Prop :=
  ∀ entity ∈ g.movers, g.pendingMove? (g.grounds groundLayer) entity = none

/-- The graph that a run leaves and its moves, also those that add up to nothing. -/
def settlingRun (g : Graph) (groundLayer : Option Nat) : Graph × List Alignment :=
  passes (g.grounds groundLayer) g.movers (g.movers.length + 1) g []

theorem alignToGround_eq (g : Graph) (groundLayer : Option Nat) :
    g.alignToGround groundLayer = ((g.settlingRun groundLayer).1,
      (g.settlingRun groundLayer).2.filter fun a => alignTolerance < a.deltaY.abs) := rfl

/-! ## One pass -/

theorem settle_of_none {grounds : List EntityId} {s : Settling} {entity : EntityId}
    (none : s.graph.pendingMove? grounds entity = none) : settle grounds s entity = s := by
  simp only [settle, none]

theorem settle_of_some {grounds : List EntityId} {s : Settling} {entity : EntityId}
    {step : Alignment} (some : s.graph.pendingMove? grounds entity = some step) :
    settle grounds s entity =
      ⟨s.graph.translateWorld entity ⟨0, step.deltaY⟩, recordMove step s.moves, true⟩ := by
  simp only [settle, some]

theorem recordMove_ne_nil (step : Alignment) (moves : List Alignment) :
    recordMove step moves ≠ [] := by
  cases moves with
  | nil => simp [recordMove]
  | cons a rest =>
      simp only [recordMove]
      split <;> simp

/-- A pass that has moved something keeps a move on record. -/
theorem foldl_settle_of_moved (grounds movers : List EntityId) (s : Settling)
    (moved : s.moved = true) (recorded : s.moves ≠ []) :
    (movers.foldl (settle grounds) s).moved = true ∧
      (movers.foldl (settle grounds) s).moves ≠ [] := by
  induction movers generalizing s with
  | nil => exact ⟨moved, recorded⟩
  | cons entity rest ih =>
      rw [List.foldl_cons]
      cases pending : s.graph.pendingMove? grounds entity with
      | none =>
          rw [settle_of_none pending]
          exact ih s moved recorded
      | some step =>
          rw [settle_of_some pending]
          exact ih _ rfl (recordMove_ne_nil step s.moves)

theorem foldl_settle_of_none (grounds movers : List EntityId) (s : Settling)
    (rests : ∀ entity ∈ movers, s.graph.pendingMove? grounds entity = none) :
    movers.foldl (settle grounds) s = s := by
  induction movers with
  | nil => rfl
  | cons entity rest ih =>
      rw [List.foldl_cons, settle_of_none (rests entity (List.mem_cons_self ..))]
      exact ih fun other member => rests other (List.mem_cons_of_mem _ member)

/-- A pass moves something as soon as one mover needs a move: the movers before it, if they need
none, leave the graph as it is. -/
theorem foldl_settle_of_some (grounds movers : List EntityId) (s : Settling) (entity : EntityId)
    (member : entity ∈ movers) (pending : s.graph.pendingMove? grounds entity ≠ none) :
    (movers.foldl (settle grounds) s).moved = true ∧
      (movers.foldl (settle grounds) s).moves ≠ [] := by
  induction movers with
  | nil => simp at member
  | cons first rest ih =>
      rw [List.foldl_cons]
      cases firstPending : s.graph.pendingMove? grounds first with
      | none =>
          rw [settle_of_none firstPending]
          apply ih
          rcases List.mem_cons.mp member with same | later
          · exact absurd (same ▸ firstPending) pending
          · exact later
      | some step =>
          rw [settle_of_some firstPending]
          exact foldl_settle_of_moved grounds rest _ rfl (recordMove_ne_nil step s.moves)

/-! ## All passes -/

theorem passes_of_none (grounds movers : List EntityId) (bound : Nat) (g : Graph)
    (moves : List Alignment)
    (rests : ∀ entity ∈ movers, g.pendingMove? grounds entity = none) :
    passes grounds movers (bound + 1) g moves = (g, moves) := by
  simp only [passes]
  rw [foldl_settle_of_none grounds movers ⟨g, moves, false⟩ rests]
  rfl

theorem passes_moves_ne_nil (grounds movers : List EntityId) (bound : Nat) (g : Graph)
    (moves : List Alignment) (recorded : moves ≠ []) :
    (passes grounds movers bound g moves).2 ≠ [] := by
  induction bound generalizing g moves with
  | zero => exact recorded
  | succ bound ih =>
      simp only [passes]
      have kept : (movers.foldl (settle grounds) ⟨g, moves, false⟩).moves ≠ [] := by
        by_cases rests : ∀ entity ∈ movers, g.pendingMove? grounds entity = none
        · rw [foldl_settle_of_none grounds movers ⟨g, moves, false⟩ rests]
          exact recorded
        · obtain ⟨entity, member, pending⟩ : ∃ entity ∈ movers,
              g.pendingMove? grounds entity ≠ none := by
            simpa using rests
          exact (foldl_settle_of_some grounds movers ⟨g, moves, false⟩ entity member pending).2
      split
      · exact ih _ _ kept
      · exact kept

/-- A run records no move exactly when no mover needs one. -/
theorem passes_moves_eq_nil_iff (grounds movers : List EntityId) (bound : Nat) (g : Graph) :
    (passes grounds movers (bound + 1) g []).2 = [] ↔
      ∀ entity ∈ movers, g.pendingMove? grounds entity = none := by
  constructor
  · intro unmoved entity member
    by_contra pending
    obtain ⟨moved, recorded⟩ :=
      foldl_settle_of_some grounds movers ⟨g, [], false⟩ entity member pending
    simp only [passes, moved, if_true] at unmoved
    exact passes_moves_ne_nil grounds movers bound _ _ recorded unmoved
  · intro rests
    rw [passes_of_none grounds movers bound g [] rests]

/-- Whether one of the next passes moves nothing. -/
def ComesToRest (grounds movers : List EntityId) : Nat → Graph → Prop
  | 0, _ => False
  | bound + 1, g =>
      (∀ entity ∈ movers, g.pendingMove? grounds entity = none) ∨
        ComesToRest grounds movers bound (movers.foldl (settle grounds) ⟨g, [], false⟩).graph

/-- The moves on record have no influence on where entities go. -/
theorem foldl_settle_graph (grounds movers : List EntityId) (s t : Settling)
    (same : s.graph = t.graph) :
    (movers.foldl (settle grounds) s).graph = (movers.foldl (settle grounds) t).graph := by
  induction movers generalizing s t with
  | nil => exact same
  | cons entity rest ih =>
      rw [List.foldl_cons, List.foldl_cons]
      apply ih
      cases pending : s.graph.pendingMove? grounds entity with
      | none => rw [settle_of_none pending, settle_of_none (same ▸ pending), same]
      | some step => rw [settle_of_some pending, settle_of_some (same ▸ pending), same]

theorem passes_of_comesToRest (grounds movers : List EntityId) (bound : Nat) (g : Graph)
    (moves : List Alignment) (rest : ComesToRest grounds movers bound g) :
    ∀ entity ∈ movers,
      (passes grounds movers bound g moves).1.pendingMove? grounds entity = none := by
  induction bound generalizing g moves with
  | zero => exact rest.elim
  | succ bound ih =>
      by_cases rests : ∀ entity ∈ movers, g.pendingMove? grounds entity = none
      · rw [passes_of_none grounds movers bound g moves rests]
        exact rests
      · have later := rest.resolve_left rests
        obtain ⟨entity, member, pending⟩ : ∃ entity ∈ movers,
            g.pendingMove? grounds entity ≠ none := by
          simpa using rests
        have moved :=
          (foldl_settle_of_some grounds movers ⟨g, moves, false⟩ entity member pending).1
        simp only [passes, moved, if_true]
        apply ih
        rw [foldl_settle_graph grounds movers ⟨g, moves, false⟩ ⟨g, [], false⟩ rfl]
        exact later

/-! ## What a run does not touch -/

/-- An entity without its place in the plane. -/
def unplaced (e : Entity) : Entity :=
  { e with transform := { e.transform with position := ⟨0, 0, e.transform.position.z⟩ } }

/-- Whether two graphs differ at most in the places of their entities. -/
def AlikeUpToPlaces (g h : Graph) : Prop :=
  g.entities.toList.map unplaced = h.entities.toList.map unplaced

theorem modify_alikeUpToPlaces (g : Graph) (id : EntityId) (change : Entity → Entity)
    (moves : ∀ e, unplaced (change e) = unplaced e) : AlikeUpToPlaces (g.modify id change) g := by
  apply List.ext_getElem (by simp [modify])
  intro i _ _
  simp only [modify, List.getElem_map, Array.getElem_toList, Array.getElem_modify]
  split
  · rw [moves]
  · rfl

theorem translateWorld_alikeUpToPlaces (g : Graph) (id : EntityId) (delta : Vector2) :
    AlikeUpToPlaces (g.translateWorld id delta) g :=
  modify_alikeUpToPlaces g id _ fun _ => rfl

theorem foldl_settle_alikeUpToPlaces (grounds movers : List EntityId) (s : Settling) :
    AlikeUpToPlaces (movers.foldl (settle grounds) s).graph s.graph := by
  induction movers generalizing s with
  | nil => rfl
  | cons entity rest ih =>
      rw [List.foldl_cons]
      cases pending : s.graph.pendingMove? grounds entity with
      | none =>
          rw [settle_of_none pending]
          exact ih s
      | some step =>
          rw [settle_of_some pending]
          exact (ih _).trans (translateWorld_alikeUpToPlaces s.graph entity ⟨0, step.deltaY⟩)

theorem passes_alikeUpToPlaces (grounds movers : List EntityId) (bound : Nat) (g : Graph)
    (moves : List Alignment) :
    AlikeUpToPlaces (passes grounds movers bound g moves).1 g := by
  induction bound generalizing g moves with
  | zero => rfl
  | succ bound ih =>
      have pass := foldl_settle_alikeUpToPlaces grounds movers ⟨g, moves, false⟩
      simp only [passes]
      split
      · exact (ih _ _).trans pass
      · exact pass

theorem alignToGround_alikeUpToPlaces (g : Graph) (groundLayer : Option Nat) :
    AlikeUpToPlaces (g.alignToGround groundLayer).1 g :=
  passes_alikeUpToPlaces (g.grounds groundLayer) g.movers (g.movers.length + 1) g []

theorem AlikeUpToPlaces.get? {g h : Graph} (alike : AlikeUpToPlaces g h) (id : EntityId) :
    (g.get? id).map unplaced = (h.get? id).map unplaced := by
  have entry := congrArg (fun entities => entities[id]?) alike
  simpa [Graph.get?] using entry

theorem AlikeUpToPlaces.grounds {g h : Graph} (alike : AlikeUpToPlaces g h)
    (groundLayer : Option Nat) : g.grounds groundLayer = h.grounds groundLayer := by
  have kept : ∀ entities : List Entity,
      (entities.filter (isGround groundLayer)).map (·.id) =
        ((entities.map unplaced).filter (isGround groundLayer)).map (·.id) := by
    intro entities
    rw [List.filter_map, List.map_map]
    rfl
  rw [Graph.grounds, Graph.grounds, kept g.entities.toList, kept h.entities.toList, alike]

/-- The movers are the entities to be aligned that have a picture under their identifier. -/
theorem mem_movers_iff (g : Graph) (id : EntityId) :
    id ∈ g.movers ↔
      ∃ e ∈ g.entities.toList, isMover e = true ∧ e.id = id ∧ (g.visualBounds? id).isSome := by
  simp only [movers, List.mem_map, List.mem_mergeSort, List.mem_filterMap, List.mem_filter,
    Option.map_eq_some_iff]
  constructor
  · rintro ⟨_, ⟨e, ⟨member, mover⟩, bounds, found, rfl⟩, rfl⟩
    exact ⟨e, member, mover, rfl, by rw [found]; rfl⟩
  · rintro ⟨e, member, mover, rfl, found⟩
    obtain ⟨bounds, found⟩ := Option.isSome_iff_exists.mp found
    exact ⟨_, ⟨e, ⟨member, mover⟩, bounds, found, rfl⟩, rfl⟩

theorem visualBounds?_isSome_iff (g : Graph) (id : EntityId) :
    (g.visualBounds? id).isSome = (g.get? id).any fun e => e.components.visual.isSome := by
  unfold visualBounds?
  cases g.get? id with
  | none => rfl
  | some e => simp

theorem AlikeUpToPlaces.mem_movers {g h : Graph} (alike : AlikeUpToPlaces g h) {id : EntityId}
    (member : id ∈ g.movers) : id ∈ h.movers := by
  rw [mem_movers_iff] at member ⊢
  obtain ⟨e, inside, mover, same, picture⟩ := member
  have unplacedInside : unplaced e ∈ h.entities.toList.map unplaced := by
    rw [← alike]
    exact List.mem_map_of_mem inside
  obtain ⟨other, otherInside, equal⟩ := List.mem_map.mp unplacedInside
  refine ⟨other, otherInside, ?_, ?_, ?_⟩
  · have kept : isMover (unplaced other) = isMover (unplaced e) := by rw [equal]
    exact kept.trans mover
  · have kept : (unplaced other).id = (unplaced e).id := by rw [equal]
    exact kept.trans same
  · rw [visualBounds?_isSome_iff] at picture ⊢
    have seen : ∀ k : Graph, (k.get? id).any (fun e => e.components.visual.isSome) =
        ((k.get? id).map unplaced).any fun e => e.components.visual.isSome := by
      intro k
      cases k.get? id <;> rfl
    rw [seen, ← alike.get? id, ← seen]
    exact picture

/-- A run one of whose passes moves nothing leaves a settled graph. -/
theorem settled_of_comesToRest (g : Graph) (groundLayer : Option Nat)
    (rest : ComesToRest (g.grounds groundLayer) g.movers (g.movers.length + 1) g) :
    Settled (g.alignToGround groundLayer).1 groundLayer := by
  have alike : AlikeUpToPlaces (g.alignToGround groundLayer).1 g :=
    passes_alikeUpToPlaces (g.grounds groundLayer) g.movers (g.movers.length + 1) g []
  intro entity member
  rw [alike.grounds]
  exact passes_of_comesToRest _ _ _ g [] rest entity (alike.mem_movers member)

/-! ## Another run -/

/-- A second run over what a first run left moves nothing exactly when the first one left a settled
graph; then it reports nothing and leaves the graph as it is.  The first run does so whenever one of
its passes moved nothing. -/
theorem alignToGround_again_iff (g : Graph) (groundLayer : Option Nat) :
    ((settlingRun (g.alignToGround groundLayer).1 groundLayer).2 = [] ↔
        Settled (g.alignToGround groundLayer).1 groundLayer) ∧
      (Settled (g.alignToGround groundLayer).1 groundLayer →
        (g.alignToGround groundLayer).1.alignToGround groundLayer =
          ((g.alignToGround groundLayer).1, [])) ∧
      (ComesToRest (g.grounds groundLayer) g.movers (g.movers.length + 1) g →
        Settled (g.alignToGround groundLayer).1 groundLayer) := by
  generalize left : (g.alignToGround groundLayer).1 = aligned
  refine ⟨passes_moves_eq_nil_iff _ _ _ aligned, ?_, ?_⟩
  · intro settled
    rw [alignToGround_eq, settlingRun, passes_of_none _ _ _ aligned [] settled]
    rfl
  · intro rest
    rw [← left]
    exact settled_of_comesToRest g groundLayer rest

/-! ## Crates that climb on each other -/

/-- A crate of unit size that is ground and can fall. -/
def crate (id : EntityId) : Entity :=
  { Entity.blank id "Crate" with
    tag := groundMarker
    components := { Components.none with
      visual := some
        { assetPath := "Assets/crate.png", pixelSize := (1, 1), pixelsPerUnit := 1,
          sortingLayer := "Default", orderInLayer := 0, color := Color.white,
          localBounds := ⟨⟨-0.5, -0.5⟩, ⟨0.5, 0.5⟩⟩ }
      body := some { Body.fixed with kind := .dynamic } } }

/-- Two crates at one place. -/
def crates : Graph := ⟨#[crate 0, crate 1]⟩

/-- The bottoms of the movers in the order of their creation. -/
def bottoms (g : Graph) : List (EntityId × Int) :=
  (g.entities.toList.filter isMover).filterMap fun e =>
    (g.visualBounds? e.id).map fun bounds => (e.id, Geometry.rank bounds.min.y)

/-- Movers that already stand from the lowest up are not sorted anew. -/
theorem movers_of_pairwise (g : Graph)
    (ascending : g.bottoms.Pairwise fun a b =>
      (a.2 < b.2 || (a.2 == b.2 && a.1 ≤ b.1)) = true) : g.movers = g.bottoms.map (·.1) := by
  have sorted : g.bottoms.mergeSort (fun a b => a.2 < b.2 || (a.2 == b.2 && a.1 ≤ b.1)) =
      g.bottoms := List.mergeSort_of_pairwise ascending
  exact congrArg (List.map (·.1)) sorted

theorem crates_settlingRun :
    crates.settlingRun none = passes [0, 1] [0, 1] 3 crates [] := by
  have movers : crates.movers = [0, 1] := by
    rw [movers_of_pairwise crates (by decide +kernel)]
    decide +kernel
  have grounds : crates.grounds none = [0, 1] := by decide +kernel
  rw [settlingRun, movers, grounds]
  rfl

/-- The first run over the two crates leaves them five and six units up, and a second run moves both
of them by six units more. -/
theorem crates_climb_again :
    ((crates.alignToGround none).1.alignToGround none).2.map
      (fun a => (a.entity, a.ground, a.deltaY.toBits)) =
        [(0, 1, (6 : Float32).toBits), (1, 0, (6 : Float32).toBits)] := by
  have first : (crates.alignToGround none).1 = (passes [0, 1] [0, 1] 3 crates []).1 := by
    rw [alignToGround_eq, crates_settlingRun]
  rw [first]
  generalize left : (passes [0, 1] [0, 1] 3 crates []).1 = climbed
  have movers : climbed.movers = [0, 1] := by
    rw [← left, movers_of_pairwise _ (by decide +kernel)]
    decide +kernel
  have grounds : climbed.grounds none = [0, 1] := by
    rw [← left]
    decide +kernel
  rw [alignToGround_eq, settlingRun, movers, grounds, ← left]
  decide +kernel

end GameScenes.Scene.Graph
