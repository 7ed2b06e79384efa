import GameScenes.Project.Saving
import GameScenes.Proofs.Json.Readable

/-!
# The files of a project read back

The tables and the list of scenes to build are read from their files as they were saved, whatever
texts they hold.
-/

set_option autoImplicit false

namespace GameScenes

open Json (Reads Fills TypedReader TypedField prettyChars)

/-! ## Tables -/

namespace LayerTable

theorem ofSlots_slots (table : LayerTable) : ofSlots table.slots = table := by
  obtain ⟨slots, size⟩ := table
  simp only [ofSlots, mk.injEq]
  rw [← size, List.take_append_of_le_length (Nat.le_refl _), List.take_length]

end LayerTable

namespace Tables

theorem reads_tags (depth : Nat) (table : TagTable) :
    Reads tagsReader (prettyChars depth (.object [("tags", .array (table.tags.map .text))]))
      table := by
  apply Reads.record depth ["tags"]
  · refine .needed rfl rfl ?_ (.done _ _)
    exact Reads.list (depth + 1) table.tags fun tag _ => Reads.text tag
  · decide

/-- A slot as its file holds it. -/
def slotJson : Option String → Json
  | some name => .text name
  | none => .null

theorem reads_slot (depth : Nat) (slot : Option String) :
    Reads TypedReader.text.optional (prettyChars depth (slotJson slot)) slot := by
  cases slot with
  | none => exact Reads.optional_none depth TypedReader.text
  | some name => exact Reads.optional_some (by decide) (Reads.text name)

theorem reads_layers (depth : Nat) (table : LayerTable) :
    Reads layersReader (prettyChars depth (.object [("slots", .array (table.slots.map slotJson))]))
      table := by
  have slots : Reads (TypedReader.record "LayerTable"
      [.needed "slots" (TypedReader.text.optional.list) fun slots _ => slots] [])
      (prettyChars depth (.object [("slots", .array (table.slots.map slotJson))]))
      table.slots := by
    apply Reads.record depth ["slots"]
    · refine .needed rfl rfl ?_ (.done _ _)
      exact Reads.list (depth + 1) table.slots fun slot _ => reads_slot _ slot
    · decide
  have whole := slots.mapped LayerTable.ofSlots
  rw [LayerTable.ofSlots_slots] at whole
  exact whole

theorem reads_sortingLayer (depth : Nat) (layer : SortingLayer) :
    Reads sortingLayerReader (prettyChars depth (.object [("name", .text layer.name),
      ("unique_id", .number (.int layer.uniqueId.toNat))])) layer := by
  apply Reads.record depth ["unique_id", "name"]
  · refine .needed rfl rfl (Reads.text layer.name) ?_
    exact .needed rfl rfl (Reads.word (depth + 1) layer.uniqueId) (.done _ _)
  · decide

theorem reads_sortingLayers (depth : Nat) (table : SortingLayerTable) :
    Reads sortingLayersReader (prettyChars depth (.object [("layers", .array
      (table.layers.map fun layer => .object [("name", .text layer.name),
        ("unique_id", .number (.int layer.uniqueId.toNat))]))])) table := by
  apply Reads.record depth ["layers"]
  · refine .needed rfl rfl ?_ (.done _ _)
    exact Reads.list (depth + 1) table.layers fun layer _ => reads_sortingLayer _ layer
  · decide

/-- The tables are read as they were saved. -/
theorem reader_fileText (tables : Tables) :
    reader.whole (ProjectFolder.fileText tables.toJson) = .ok tables := by
  apply TypedReader.whole_of_reads
  apply Reads.record 0 ["sorting_layers", "layers", "tags"]
  · refine .of rfl rfl (reads_tags 1 tables.tags) ?_
    refine .of rfl rfl (reads_layers 1 tables.layers) ?_
    exact .of rfl rfl (reads_sortingLayers 1 tables.sortingLayers) (.done _ _)
  · decide

end Tables

/-! ## Scenes to build -/

namespace BuildList

theorem reads_entry (depth : Nat) (entry : BuildEntry) :
    Reads entryReader (prettyChars depth (.object [("path", .text entry.path),
      ("enabled", .bool entry.enabled)])) entry := by
  apply Reads.record depth ["enabled", "path"]
  · refine .needed rfl rfl (Reads.text entry.path) ?_
    exact .needed rfl rfl (Reads.flag (depth + 1) entry.enabled) (.done _ _)
  · decide

/-- The list of scenes is read as it was saved. -/
theorem reader_fileText (list : BuildList) :
    reader.whole (ProjectFolder.fileText list.toJson) = .ok list := by
  apply TypedReader.whole_of_reads
  apply Reads.record 0 ["scenes"]
  · refine .of rfl rfl ?_ (.done _ _)
    exact Reads.list 1 list.scenes fun entry _ => reads_entry 2 entry
  · decide

end BuildList

end GameScenes
