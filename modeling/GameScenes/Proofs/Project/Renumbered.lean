import GameScenes.Proofs.Project.Entering
import GameScenes.Proofs.Project.Parallel

/-!
# Tables with other identifiers

Two runs that start from the same tables and draw different identifiers register the same names.
Entering a name keeps this (`SameButNewIds.enter`); also where no identifier is left, since the
sorting layers that were added have as many identifiers in the one table as in the other.
-/

set_option autoImplicit false

namespace GameScenes

open Storage (Fits Nearness Place draftName)

namespace Tables

/-- That two tables have grown from the same ones and hold the same names in the same places; sorting
layers that were added since may have different identifiers. -/
structure SameButNewIds (base left right : Tables) : Prop where
  grown : Extends base left
  growing : Extends base right
  tags : right.tags = left.tags
  layers : right.layers = left.layers
  names : right.sortingLayers.layers.map (·.name) = left.sortingLayers.layers.map (·.name)

namespace SameButNewIds

variable {base left right : Tables}

theorem refl (base : Tables) : SameButNewIds base base base := ⟨.refl base, .refl base, rfl, rfl, rfl⟩

theorem symm (same : SameButNewIds base left right) : SameButNewIds base right left :=
  ⟨same.growing, same.grown, same.tags.symm, same.layers.symm, same.names.symm⟩

theorem has_eq (same : SameButNewIds base left right) (name : String) :
    right.sortingLayers.has name = left.sortingLayers.has name := by
  rw [Bool.eq_iff_iff, SortingLayerTable.has_iff, SortingLayerTable.has_iff, same.names]

/-- The identifiers that were added are as many on both sides, and none of them is one of the
identifiers there were; so one that is free on the one side leaves one free on the other side. -/
theorem exists_free (same : SameButNewIds base left right) {id : UInt32}
    (free : right.sortingLayers.isFree id = true) :
    ∃ other, left.sortingLayers.isFree other = true := by
  by_contra none
  have full : ∀ other : UInt32, other ≠ 0 →
      other ∈ left.sortingLayers.layers.map (·.uniqueId) := by
    intro other nonzero
    by_contra missing
    refine none ⟨other, SortingLayerTable.isFree_iff.mpr ⟨nonzero, ?_⟩⟩
    intro layer member taken
    exact missing (List.mem_map.mpr ⟨layer, member, taken⟩)
  obtain ⟨nonzero, fresh⟩ := SortingLayerTable.isFree_iff.mp free
  obtain ⟨added, lefts, -, -⟩ := same.grown.sortingIds
  obtain ⟨others, rights, distinct, apart⟩ := same.growing.sortingIds
  have lengths : others.length = added.length := by
    have names := congrArg List.length same.names
    simp only [lefts, rights, List.length_map, List.length_append] at names
    omega
  have unlisted : id ∉ others.map (·.uniqueId) := by
    intro member
    obtain ⟨layer, there, taken⟩ := List.mem_map.mp member
    exact fresh layer (rights ▸ List.mem_append_right _ there) taken
  -- with `id` the right side would have more identifiers of its own than the left side
  have subset : id :: others.map (·.uniqueId) ⊆ added.map (·.uniqueId) := by
    intro candidate member
    have outside : candidate ≠ 0 ∧ candidate ∉ base.sortingLayers.layers.map (·.uniqueId) := by
      rcases List.mem_cons.mp member with rfl | listed
      · refine ⟨nonzero, ?_⟩
        intro old
        obtain ⟨layer, there, taken⟩ := List.mem_map.mp old
        exact fresh layer (rights ▸ List.mem_append_left _ there) taken
      · obtain ⟨layer, there, rfl⟩ := List.mem_map.mp listed
        refine ⟨?_, apart layer there⟩
        intro zero
        have old := same.growing.nonzero layer (rights ▸ List.mem_append_right _ there) zero
        exact apart layer there (List.mem_map_of_mem old)
    have known := full candidate outside.1
    rw [lefts, List.map_append] at known
    exact (List.mem_append.mp known).resolve_left outside.2
  have fits := (List.nodup_cons.mpr ⟨unlisted, distinct⟩).length_le_of_subset subset
  simp only [List.length_cons, List.length_map] at fits
  omega

theorem full_iff (same : SameButNewIds base left right) :
    (∀ id, left.sortingLayers.isFree id = false) ↔ ∀ id, right.sortingLayers.isFree id = false := by
  constructor
  · intro full id
    rw [Bool.eq_false_iff]
    intro free
    obtain ⟨other, left⟩ := same.exists_free free
    rw [full other] at left
    cases left
  · intro full id
    rw [Bool.eq_false_iff]
    intro free
    obtain ⟨other, right⟩ := same.symm.exists_free free
    rw [full other] at right
    cases right

end SameButNewIds

end Tables

/-! ## Entering -/

namespace SortingLayerTable

/-- A new sorting layer is added at the end as long as an identifier is left. -/
theorem names_register {table : SortingLayerTable} (draws : Draws) {name : String}
    (missing : ¬ table.has name = true) (room : ¬ ∀ id, table.isFree id = false) :
    (table.register draws name).1.layers.map (·.name) = table.layers.map (·.name) ++ [name] := by
  cases next : table.nextId? draws with
  | none => exact absurd (nextId?_eq_none_iff.mp next) room
  | some drawn => rw [register, if_neg missing, next, List.map_append, List.map_singleton]

end SortingLayerTable

namespace Tables.SameButNewIds

open Ledger (enter_cases)

variable {base : Tables} {left right : Ledger}

theorem extends_enter (grown : Extends base left.tables) (entry : Entry) :
    Extends base (left.enter entry).tables := by
  rcases enter_cases left entry with same | adds
  · rw [same]
    exact grown
  · exact grown.trans (.of_adds adds)

theorem names_enter (same : SameButNewIds base left.tables right.tables) (name : String) :
    (right.enter (.sortingLayer name)).tables.sortingLayers.layers.map (·.name) =
      (left.enter (.sortingLayer name)).tables.sortingLayers.layers.map (·.name) := by
  simp only [Ledger.enter]
  by_cases present : left.tables.sortingLayers.has name = true
  · have there : right.tables.sortingLayers.has name = true := (same.has_eq name).trans present
    rw [SortingLayerTable.register_of_has present, SortingLayerTable.register_of_has there]
    exact same.names
  · have missing : ¬ right.tables.sortingLayers.has name = true := by
      rw [same.has_eq]
      exact present
    by_cases full : ∀ id, left.tables.sortingLayers.isFree id = false
    · rw [SortingLayerTable.register_of_full full,
        SortingLayerTable.register_of_full (same.full_iff.mp full)]
      exact same.names
    · have room := mt same.full_iff.mpr full
      rw [SortingLayerTable.names_register _ present full,
        SortingLayerTable.names_register _ missing room, same.names]

/-- Entering a name into both tables keeps them the same, whatever is drawn. -/
theorem enter (same : SameButNewIds base left.tables right.tables) (entry : Entry) :
    SameButNewIds base (left.enter entry).tables (right.enter entry).tables := by
  have grown := extends_enter same.grown entry
  have growing := extends_enter same.growing entry
  cases entry with
  | tag name =>
      refine ⟨grown, growing, ?_, same.layers, same.names⟩
      simp only [Ledger.enter, same.tags]
  | layer name =>
      refine ⟨grown, growing, same.tags, ?_, same.names⟩
      simp only [Ledger.enter, same.layers]
  | sortingLayer name => exact ⟨grown, growing, same.tags, same.layers, same.names_enter name⟩

theorem enterAll (same : SameButNewIds base left.tables right.tables) (entries : List Entry) :
    SameButNewIds base (left.enterAll entries).tables (right.enterAll entries).tables := by
  induction entries generalizing left right with
  | nil => exact same
  | cons entry rest ih => exact ih (same.enter entry)

end Tables.SameButNewIds

/-! ## The file of the tables -/

namespace ProjectFolder

/-- That two files hold the same, or are those of the tables and hold tables which differ in new
identifiers; a draft of the tables may hold anything. -/
inductive IdsApart (project : ProjectFolder) (working : Place) (base : Tables) : Nearness
  | same (place : Place) (bytes : ByteArray) : IdsApart project working base place bytes bytes
  | draft (bytes others : ByteArray) :
      IdsApart project working base (project.settingsPlace working (draftName tablesName)) bytes
        others
  | tables {left right : Tables} (same : base.SameButNewIds left right) :
      IdsApart project working base (project.settingsPlace working tablesName) (tablesBytes left)
        (tablesBytes right)

variable (project : ProjectFolder) (working : Place) (base : Tables)

theorem IdsApart.eq_of_other {place : Place} {bytes others : ByteArray}
    (own : place ≠ project.settingsPlace working tablesName)
    (draft : place ≠ project.settingsPlace working (draftName tablesName))
    (agree : project.IdsApart working base place bytes others) : bytes = others := by
  cases agree with
  | same place bytes => rfl
  | draft bytes others => exact absurd rfl draft
  | tables same => exact absurd rfl own

/-- The file of the tables is neither an image nor the list of scenes to build. -/
theorem tolerates_idsApart :
    project.Tolerates (project.IdsApart working base) working where
  same place bytes := .same place bytes
  images place bytes others agree formed := by
    cases agree with
    | same place bytes => rfl
    | draft bytes others =>
        simp [settingsPlace, Storage.fileIn, Image.ofName?_draftName] at formed
    | tables same =>
        have formless : Image.Format.ofName? tablesName = none := by decide
        simp [settingsPlace, Storage.fileIn, formless] at formed
  buildList bytes others agree := by
    refine agree.eq_of_other project working base ?_ ?_
    · rw [Ne, settingsPlace_inj]
      decide
    · rw [Ne, settingsPlace_inj]
      decide

end ProjectFolder

end GameScenes
