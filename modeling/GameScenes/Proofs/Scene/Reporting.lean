import GameScenes.Proofs.Scene.Frames
import GameScenes.Proofs.Scene.Resting

/-!
# What a run reports

A run reports for every entity the sum of its own steps, unless that is next to nothing.  This is the
net move of the entity as long as its frame rests (`report_is_net_move`).  It is not when an ancestor
is a mover too: the ancestor carries the entity along, and only what the entity then does to get back
is on record (`rider_reported_upwards`).
-/

set_option autoImplicit false

namespace GameScenes.Scene.Graph

open Number (singleValue? margin)

variable {g : Graph} {id : EntityId} {steps : List Alignment}

/-! ## The report -/

/-- The number that the tolerance stands for. -/
def tolerance : ℚ := 8589935 / 2 ^ 33

theorem singleValue?_alignTolerance : singleValue? alignTolerance = some tolerance := by
  have bits : Number.ofSingle? alignTolerance = some ⟨false, 8589935, -33⟩ := by decide +kernel
  rw [singleValue?, bits]
  norm_num [Number.Dyadic.value, tolerance]

/-- That an entity stands in an upright frame in which nothing is moved, and that no float on the way
is so large that rounding could pile up beyond the tolerance. -/
structure Steady (g : Graph) (id : EntityId) (steps : List Alignment) (i j : Int) (σ : ℚ) : Prop
    extends Followed g id steps i j σ where
  pictured : (g.picture? id).isSome
  within : Within g id (j + i)
  within' : Within (g.replay steps) id (j + i)
  normal : -125 ≤ j
  normal' : -125 ≤ j + i
  precise : (4 * (ownDeltas steps id).length + 6) * margin (j + i) ≤ tolerance

/-- An entity that is not moved, and whose ancestors are not, keeps its extent. -/
theorem visualBounds?_replay (forest : g.Forest)
    (resting : ∀ step ∈ steps, step.entity ≠ id ∧ step.entity ∉ g.ancestors id) :
    (g.replay steps).visualBounds? id = g.visualBounds? id := by
  have alike := replay_alikeUpToPlaces g steps
  rw [visualBounds?_eq, visualBounds?_eq, alike.picture?]
  by_cases inside : id < g.size
  · rw [(forest.replay steps).worldPose_eq (alike.size ▸ inside), forest.worldPose_eq inside,
      frame_replay fun step member => (resting step member).2,
      localPose_replay fun step member => (resting step member).1]
  · have absent : g.picture? id = none := by
      rw [picture?, get?_eq_none_iff.mpr (Nat.not_lt.mp inside)]
      rfl
    rw [absent, Option.map_none, Option.map_none]

/-- Every entry of the report names a mover, no two the same one, and gives the sum of the mover's own
steps.  An entity neither moved itself nor carried by an ancestor keeps its place and has no entry.
Of an entity in a steady frame the entry is the net move of the bottom of its picture, up to the
tolerance, and there is no entry when the bottom is where it was. -/
theorem report_is_net_move (g : Graph) (groundLayer : Option Nat) (forest : g.Forest) :
    ((g.alignToGround groundLayer).2.map (·.entity)).Nodup ∧
      (∀ a ∈ (g.alignToGround groundLayer).2, a.entity ∈ g.movers ∧
        summed? (ownDeltas (g.alignmentSteps groundLayer) a.entity) = some a.deltaY) ∧
      (∀ id, (∀ step ∈ g.alignmentSteps groundLayer,
          step.entity ≠ id ∧ step.entity ∉ g.ancestors id) →
        (g.alignToGround groundLayer).1.visualBounds? id = g.visualBounds? id ∧
          ∀ a ∈ (g.alignToGround groundLayer).2, a.entity ≠ id) ∧
      ∀ id i j σ, Steady g id (g.alignmentSteps groundLayer) i j σ →
        ∃ before after, g.bottom? id = some before ∧
          (g.alignToGround groundLayer).1.bottom? id = some after ∧
          (∀ a ∈ (g.alignToGround groundLayer).2, a.entity = id →
            ∃ moved, singleValue? a.deltaY = some moved ∧ |moved - (after - before)| ≤ tolerance) ∧
          (after = before → ∀ a ∈ (g.alignToGround groundLayer).2, a.entity ≠ id) := by
  obtain ⟨nodup, entries⟩ := entries_spec g groundLayer
  have left : (g.alignToGround groundLayer).1 = g.replay (g.alignmentSteps groundLayer) := by
    rw [alignToGround_eq_replay]
  refine ⟨nodup, fun a member => ⟨(entries a member).1, (entries a member).2.1⟩, ?_, ?_⟩
  · intro id resting
    refine ⟨left ▸ visualBounds?_replay forest resting, fun a member own => ?_⟩
    have none : ownDeltas (g.alignmentSteps groundLayer) a.entity = [] := by
      rw [ownDeltas, List.map_eq_nil_iff, List.filter_eq_nil_iff]
      intro step among same
      exact (resting step among).1 ((eq_of_beq same).trans own)
    have sum := (entries a member).2.1
    rw [none] at sum
    cases sum
  · intro id i j σ steady
    obtain ⟨before, after, total, beforeValue, afterValue, totalValue, near⟩ :=
      steady.bottom forest steady.pictured steady.within steady.within' steady.normal steady.normal'
    have close := near.trans steady.precise
    refine ⟨before, after, beforeValue, left ▸ afterValue, ?_, ?_⟩
    · intro a member own
      have sum := (entries a member).2.1
      rw [own] at sum
      rw [sum] at totalValue
      exact ⟨total, totalValue, close⟩
    · intro same a member own
      obtain ⟨-, sum, large⟩ := entries a member
      rw [own] at sum
      rw [sum] at totalValue
      have beyond := (Number.single_lt_iff_value singleValue?_alignTolerance
        (Number.singleValue?_abs totalValue)).mp large
      rw [same, sub_self, sub_zero] at close
      exact absurd beyond (not_lt.mpr close)

/-! ## A crate that falls -/

theorem floorAndCrate_forest : floorAndCrate.Forest := by
  have spawned : ((empty.spawn "Floor" none).1.spawn "Crate" none).1.Orderly :=
    (orderly_empty.spawn "Floor" none (by simp)).spawn "Crate" none (by simp)
  refine (spawned.of_links fun i => ?_).forest
  match i with
  | 0 => rfl
  | 1 => rfl
  | _ + 2 => rfl

theorem floorAndCrate_steps : floorAndCrate.alignmentSteps none = [⟨1, 0, -2⟩] := by
  have grounds : floorAndCrate.grounds none = [0] := by decide +kernel
  have listed : (floorAndCrate.alignmentSteps none).map (fun a => (a.entity, a.ground, a.deltaY)) =
      [(1, 0, -2)] := by
    rw [alignmentSteps, floorAndCrate_movers, grounds, List.length_singleton]
    decide +kernel
  obtain ⟨⟨entity, ground, delta⟩, alone, same⟩ := List.map_eq_singleton_iff.mp listed
  simp only [Prod.mk.injEq] at same
  obtain ⟨rfl, rfl, rfl⟩ := same
  exact alone

theorem within_of_isBelow {k : Int} {bounds : Bounds} (picture : g.picture? id = some bounds)
    (place : Number.isBelow k (g.worldPose id).translation.y = true)
    (corners : (bounds.corners.all fun c =>
      Number.isBelow k ((g.worldPose id).applyPoint c).y) = true) : Within g id k where
  place := Number.below_of_isBelow place
  corners other found c member := by
    obtain rfl : bounds = other := Option.some_inj.mp (picture.symm.trans found)
    exact Number.below_of_isBelow (List.all_eq_true.mp corners c member)

theorem eq_or_eq_of_prefix {taken : List Alignment} {step : Alignment} (part : taken <+: [step]) :
    taken = [] ∨ taken = [step] := by
  rcases List.prefix_cons_iff.mp part with rfl | ⟨rest, rfl, further⟩
  · exact .inl rfl
  · rw [List.prefix_nil.mp further]
    exact .inr rfl

theorem floorAndCrate_steady : Steady floorAndCrate 1 [⟨1, 0, -2⟩] 0 10 1 where
  inside := by decide +kernel
  resting := by decide +kernel
  upright :=
    { unturned := by decide +kernel
      scale := by
        have bits : Number.ofSingle? (floorAndCrate.frame 1).scale.y =
            some ⟨false, 8388608, -23⟩ := by decide +kernel
        rw [singleValue?, bits]
        norm_num [Number.Dyadic.value]
      bounded := by norm_num
      invertible := by decide +kernel }
  heights taken part := by
    rcases eq_or_eq_of_prefix part with rfl | rfl
    · exact Number.below_of_isBelow (by decide +kernel)
    · exact Number.below_of_isBelow (by decide +kernel)
  sums taken part s sum := by
    rcases eq_or_eq_of_prefix part with rfl | rfl
    · cases sum
    · cases sum
      exact Number.below_of_isBelow (by decide +kernel)
  pictured := by decide +kernel
  within := within_of_isBelow rfl (by decide +kernel) (by decide +kernel)
  within' := within_of_isBelow rfl (by decide +kernel) (by decide +kernel)
  normal := by decide
  normal' := by decide
  precise := by
    norm_num [ownDeltas, margin, tolerance]

/-- The crate falls by two units, and so its entry says. -/
theorem report_is_net_move_crate :
    floorAndCrate.Forest ∧ ∃ before after, floorAndCrate.bottom? 1 = some before ∧
      (floorAndCrate.alignToGround none).1.bottom? 1 = some after ∧
      ∃ a ∈ (floorAndCrate.alignToGround none).2, a.entity = 1 ∧ a.deltaY = -2 ∧
        ∃ moved, singleValue? a.deltaY = some moved ∧ |moved - (after - before)| ≤ tolerance := by
  have report := (report_is_net_move floorAndCrate none floorAndCrate_forest).2.2.2 1 0 10 1
    (floorAndCrate_steps ▸ floorAndCrate_steady)
  obtain ⟨before, after, beforeValue, afterValue, entries, -⟩ := report
  have listed : ⟨1, 0, -2⟩ ∈ (floorAndCrate.alignToGround none).2 := by
    rw [alignToGround_eq_replay, floorAndCrate_steps]
    exact List.mem_filter.mpr ⟨List.mem_singleton.mpr rfl, by decide +kernel⟩
  exact ⟨floorAndCrate_forest, before, after, beforeValue, afterValue, _, listed, rfl, rfl,
    entries _ listed rfl⟩

/-! ## A rider that is carried -/

/-- A floor, a rider three units above it, and five units above it the carrier, whose child the rider
is. -/
def floorRiderCarrier : Graph :=
  ⟨#[{ block 0 0 .static with tag := groundMarker },
    { block 1 (-2) .dynamic with parent := some 2 },
    { block 2 5 .dynamic with children := [1] }]⟩

theorem floorRiderCarrier_run :
    floorRiderCarrier.alignToGround none =
      ((passes [0] [1, 2] 3 floorRiderCarrier []).1,
        (passes [0] [1, 2] 3 floorRiderCarrier []).2.filter
          fun a => alignTolerance < a.deltaY.abs) := by
  have movers : floorRiderCarrier.movers = [1, 2] := by
    rw [movers_of_pairwise floorRiderCarrier (by decide +kernel)]
    decide +kernel
  have grounds : floorRiderCarrier.grounds none = [0] := by decide +kernel
  rw [alignToGround_eq, settlingRun, movers, grounds, List.length_cons, List.length_singleton]

theorem bottom?_eq (g : Graph) (id : EntityId) :
    g.bottom? id = ((g.visualBounds? id).bind fun bounds => Number.ofSingle? bounds.min.y).map
      Number.Dyadic.value := by
  rw [bottom?, Option.map_bind]
  rfl

/-- The rider is put on the floor first, then carried below it by the carrier, then put on it again.
Its entry has the two moves of its own only: it says that the rider went up by two units, but the
rider went down by two. -/
theorem rider_reported_upwards :
    ∃ a ∈ (floorRiderCarrier.alignToGround none).2, a.entity = 1 ∧ singleValue? a.deltaY = some 2 ∧
      floorRiderCarrier.bottom? 1 = some (5 / 2) ∧
      (floorRiderCarrier.alignToGround none).1.bottom? 1 = some (1 / 2) := by
  rw [floorRiderCarrier_run]
  have entries : ((passes [0] [1, 2] 3 floorRiderCarrier []).2.filter
      fun a => alignTolerance < a.deltaY.abs).map (fun a => (a.entity, a.deltaY.toBits)) =
        [(1, (2 : Float32).toBits), (2, (-4 : Float32).toBits)] := by decide +kernel
  have two : Number.ofSingle? 2 = some ⟨false, 8388608, -22⟩ := by decide +kernel
  have before : (floorRiderCarrier.visualBounds? 1).bind (fun b => Number.ofSingle? b.min.y) =
      some ⟨false, 10485760, -22⟩ := by decide +kernel
  have after : ((passes [0] [1, 2] 3 floorRiderCarrier []).1.visualBounds? 1).bind
      (fun b => Number.ofSingle? b.min.y) = some ⟨false, 8388608, -24⟩ := by decide +kernel
  generalize (passes [0] [1, 2] 3 floorRiderCarrier []) = run at entries after ⊢
  have listed : (1, (2 : Float32).toBits) ∈ (run.2.filter fun a =>
      alignTolerance < a.deltaY.abs).map (fun a => (a.entity, a.deltaY.toBits)) := by
    rw [entries]
    exact List.mem_cons_self
  obtain ⟨a, member, same⟩ := List.mem_map.mp listed
  obtain ⟨own, bits⟩ := Prod.mk.inj same
  refine ⟨a, member, own, ?_, ?_, ?_⟩
  · rw [Float32.toBits_inj.mp bits, singleValue?, two]
    norm_num [Number.Dyadic.value]
  · rw [bottom?_eq, before]
    norm_num [Number.Dyadic.value]
  · rw [bottom?_eq, after]
    norm_num [Number.Dyadic.value]

end GameScenes.Scene.Graph
