import GameScenes.Proofs.Number.Comparison
import GameScenes.Proofs.Scene.Settling

/-!
# Where entities come to rest

An entity needs no move when no ground stands above or below its middle, or when the highest one
that does touches the bottom of its picture (`pendingMove?_eq_none_iff`).  Surfaces move while
entities are settled one after the other, but a pass that moves nothing finds every entity so in one
and the same graph, and the passes after it leave that graph alone (`rests_on_highest_ground`).
-/

set_option autoImplicit false

namespace GameScenes.Scene.Graph

/-! ## The highest surface -/

theorem highest?_eq_none_iff (surfaces : List (EntityId × Bounds)) :
    highest? surfaces = none ↔ surfaces = [] := by
  cases surfaces <;> simp [highest?]

/-- The better of two surfaces as the search for the highest one keeps it. -/
theorem foldl_highest (surfaces : List (EntityId × Bounds)) (start : EntityId × Bounds) :
    let found := surfaces.foldl (fun best next =>
      if Geometry.rank best.2.max.y ≤ Geometry.rank next.2.max.y then next else best) start
    found ∈ start :: surfaces ∧ ∀ other ∈ start :: surfaces,
      Geometry.rank other.2.max.y ≤ Geometry.rank found.2.max.y := by
  induction surfaces generalizing start with
  | nil => simp
  | cons next rest ih =>
      rw [List.foldl_cons]
      split
      case isTrue le =>
        obtain ⟨member, most⟩ := ih next
        refine ⟨List.mem_cons_of_mem _ member, fun other among => ?_⟩
        rcases List.mem_cons.mp among with rfl | later
        · exact le.trans (most next (List.mem_cons_self ..))
        · exact most other later
      case isFalse less =>
        obtain ⟨member, most⟩ := ih start
        refine ⟨?_, fun other among => ?_⟩
        · rcases List.mem_cons.mp member with same | later
          · rw [same]
            exact List.mem_cons_self
          · exact List.mem_cons_of_mem _ (List.mem_cons_of_mem _ later)
        · rcases List.mem_cons.mp among with rfl | among
          · exact most other (List.mem_cons_self ..)
          · rcases List.mem_cons.mp among with rfl | later
            · exact (Int.le_of_lt (Int.not_le.mp less)).trans (most start (List.mem_cons_self ..))
            · exact most other (List.mem_cons_of_mem _ later)

theorem highest?_spec {surfaces : List (EntityId × Bounds)} {found : EntityId × Bounds}
    (some : highest? surfaces = some found) :
    found ∈ surfaces ∧ ∀ other ∈ surfaces,
      Geometry.rank other.2.max.y ≤ Geometry.rank found.2.max.y := by
  cases surfaces with
  | nil => cases some
  | cons start rest =>
      cases some
      exact foldl_highest rest start

/-! ## Ground above or below -/

/-- That some ground other than an entity has a surface above or below a place. -/
def GroundAt (g : Graph) (groundLayer : Option Nat) (entity : EntityId) (x : Float32)
    (surface : Bounds) : Prop :=
  ∃ ground ∈ g.entities.toList, isGround groundLayer ground = true ∧ ground.id ≠ entity ∧
    g.surface? ground.id = some surface ∧ surface.spansX x = true

theorem groundAt_iff (g : Graph) (groundLayer : Option Nat) (entity : EntityId) (x : Float32)
    (surface : Bounds) :
    g.GroundAt groundLayer entity x surface ↔
      ∃ ground, (ground, surface) ∈ g.surfacesAt (g.grounds groundLayer) entity x := by
  simp only [surfacesAt, grounds, List.mem_filterMap, List.mem_filter, List.mem_map, bne_iff_ne]
  constructor
  · rintro ⟨ground, member, marked, other, found, spans⟩
    exact ⟨ground.id, ground.id, ⟨⟨ground, ⟨member, marked⟩, rfl⟩, other⟩, by simp [found, spans]⟩
  · rintro ⟨_, _, ⟨⟨ground, ⟨member, marked⟩, rfl⟩, other⟩, taken⟩
    refine ⟨ground, member, marked, other, ?_⟩
    split at taken
    · split at taken
      · cases taken
        exact ⟨‹_›, ‹_›⟩
      · cases taken
    · cases taken

/-- That an extent is in line with no ground or touches the highest one, all others of which are not
higher. -/
def Rests (g : Graph) (groundLayer : Option Nat) (entity : EntityId) (bounds : Bounds) : Prop :=
  (∀ surface, ¬ g.GroundAt groundLayer entity bounds.center.x surface) ∨
    ∃ surface, g.GroundAt groundLayer entity bounds.center.x surface ∧
      (∀ other, g.GroundAt groundLayer entity bounds.center.x other →
        other.max.y.isNaN = true ∨ other.max.y ≤ surface.max.y) ∧
      (surface.max.y - bounds.min.y).abs ≤ alignTolerance

theorem rests_of_pendingMove? {g : Graph} {groundLayer : Option Nat} {entity : EntityId}
    {bounds : Bounds} (found : g.visualBounds? entity = some bounds)
    (none : g.pendingMove? (g.grounds groundLayer) entity = none) :
    g.Rests groundLayer entity bounds := by
  simp only [pendingMove?, found] at none
  cases highest : highest? (g.surfacesAt (g.grounds groundLayer) entity bounds.center.x) with
  | none =>
      left
      rintro surface above
      obtain ⟨ground, member⟩ := (groundAt_iff ..).mp above
      rw [(highest?_eq_none_iff _).mp highest] at member
      cases member
  | some best =>
      obtain ⟨member, most⟩ := highest?_spec highest
      simp only [highest, ite_eq_left_iff, reduceCtorEq, imp_false, not_not] at none
      refine .inr ⟨best.2, (groundAt_iff ..).mpr ⟨best.1, member⟩, fun other above => ?_, none⟩
      obtain ⟨ground, among⟩ := (groundAt_iff ..).mp above
      cases number : other.max.y.isNaN with
      | true => exact .inl rfl
      | false => exact .inr (Number.le_of_rank_le number (most (ground, other) among)).2

/-! ## The graph that a run leaves -/

/-- A run one of whose passes moves nothing leaves every entity that can fall and has a picture at
rest on the highest ground above or below its middle, as the left graph has it. -/
theorem rests_on_highest_ground (g : Graph) (groundLayer : Option Nat)
    (rest : ComesToRest (g.grounds groundLayer) g.movers (g.movers.length + 1) g) :
    ∀ e ∈ (g.alignToGround groundLayer).1.entities.toList, isMover e = true →
      ((g.alignToGround groundLayer).1.get? e.id = some e →
          ((g.alignToGround groundLayer).1.visualBounds? e.id).isSome) ∧
        ∀ bounds, (g.alignToGround groundLayer).1.visualBounds? e.id = some bounds →
          (g.alignToGround groundLayer).1.Rests groundLayer e.id bounds := by
  intro e member mover
  have settled := settled_of_comesToRest g groundLayer rest
  generalize (g.alignToGround groundLayer).1 = left at *
  constructor
  · intro stands
    rw [visualBounds?_isSome_iff, stands]
    exact (Bool.and_eq_true_iff.mp mover).1
  · intro bounds found
    have among : e.id ∈ left.movers :=
      (mem_movers_iff left e.id).mpr ⟨e, member, mover, rfl, by rw [found]; rfl⟩
    exact rests_of_pendingMove? found (settled e.id among)

/-! ## A crate above a floor -/

/-- An entity with a picture of unit size at a height. -/
def block (id : EntityId) (y : Float32) (kind : Document.BodyKind) : Entity :=
  { crate id with
    tag := untagged
    transform := { LocalTransform.identity with position := ⟨0, y, 0⟩ }
    components := { (crate id).components with body := some { Body.fixed with kind } } }

/-- A floor and a crate three units above it. -/
def floorAndCrate : Graph :=
  ⟨#[{ block 0 0 .static with tag := groundMarker }, block 1 3 .dynamic]⟩

theorem floorAndCrate_movers : floorAndCrate.movers = [1] := by
  rw [movers_of_pairwise floorAndCrate (by decide +kernel)]
  decide +kernel

theorem floorAndCrate_left :
    (floorAndCrate.alignToGround none).1 = (passes [0] [1] 2 floorAndCrate []).1 := by
  have grounds : floorAndCrate.grounds none = [0] := by decide +kernel
  rw [alignToGround_eq, settlingRun, floorAndCrate_movers, grounds, List.length_singleton]

/-- The crate comes to rest on the floor: the floor is in line with it and touches its bottom. -/
theorem rests_on_highest_ground_crate :
    ComesToRest (floorAndCrate.grounds none) floorAndCrate.movers
        (floorAndCrate.movers.length + 1) floorAndCrate ∧
      ∃ bounds surface, (floorAndCrate.alignToGround none).1.visualBounds? 1 = some bounds ∧
        (floorAndCrate.alignToGround none).1.GroundAt none 1 bounds.center.x surface ∧
        (surface.max.y - bounds.min.y).abs ≤ alignTolerance := by
  have rest : ComesToRest (floorAndCrate.grounds none) floorAndCrate.movers
      (floorAndCrate.movers.length + 1) floorAndCrate := by
    have grounds : floorAndCrate.grounds none = [0] := by decide +kernel
    rw [floorAndCrate_movers, grounds]
    exact .inr (.inl (by decide +kernel))
  have rests := rests_on_highest_ground floorAndCrate none rest
  rw [floorAndCrate_left] at rests ⊢
  have falls : ((passes [0] [1] 2 floorAndCrate []).1.get? 1).any (fun e =>
      isMover e && e.id == 1) = true := by decide +kernel
  have floor : ((passes [0] [1] 2 floorAndCrate []).1.get? 0).any (fun e =>
      isGround none e && e.id == 0) = true := by decide +kernel
  have inLine : ((passes [0] [1] 2 floorAndCrate []).1.visualBounds? 1).any (fun bounds =>
      ((passes [0] [1] 2 floorAndCrate []).1.surface? 0).any fun surface =>
        surface.spansX bounds.center.x) = true := by decide +kernel
  generalize (passes [0] [1] 2 floorAndCrate []).1 = left at rests falls floor inLine ⊢
  simp only [Option.any_eq_true, Bool.and_eq_true, beq_iff_eq] at falls floor inLine
  obtain ⟨crate, standsCrate, mover, nameCrate⟩ := falls
  obtain ⟨ground, standsGround, marked, nameGround⟩ := floor
  obtain ⟨bounds, found, surface, foundSurface, spans⟩ := inLine
  have memberCrate := Array.mem_toList_iff.mpr (Array.mem_of_getElem? standsCrate)
  have memberGround := Array.mem_toList_iff.mpr (Array.mem_of_getElem? standsGround)
  rcases (rests crate memberCrate mover).2 bounds (nameCrate ▸ found) with none | some
  · refine absurd ?_ (none surface)
    exact ⟨ground, memberGround, marked, by rw [nameGround, nameCrate]; decide,
      nameGround ▸ foundSurface, spans⟩
  · obtain ⟨surface, under, -, touches⟩ := some
    exact ⟨rest, bounds, surface, found, nameCrate ▸ under, touches⟩

end GameScenes.Scene.Graph
