import GameScenes.Json.Typed
import GameScenes.Project.Tables

/-!
# The file of the tables

The tables are kept in the form of `Tables.toJson`.  A table that a file does not hold is that of
a new project; a table that it holds is complete, except that any number of slots may be given.
-/

set_option autoImplicit false

namespace GameScenes.Tables

open Json

/-- A tag table as a file holds it. -/
def tagsReader : TypedReader TagTable :=
  .record "TagTable" [.needed "tags" (TypedReader.text.list) fun tags _ => ⟨tags⟩] ⟨[]⟩

/-- A layer table as a file holds it. -/
def layersReader : TypedReader LayerTable :=
  (TypedReader.record "LayerTable"
    [.needed "slots" (TypedReader.text.optional.list) fun slots _ => slots] []).mapped
      LayerTable.ofSlots

/-- A sorting layer as a file holds it. -/
def sortingLayerReader : TypedReader SortingLayer :=
  .record "SortingLayer"
    [.needed "name" .text fun name layer => { layer with name },
      .needed "unique_id" .word fun uniqueId layer => { layer with uniqueId }]
    ⟨"", 0⟩

/-- A table of sorting layers as a file holds it. -/
def sortingLayersReader : TypedReader SortingLayerTable :=
  .record "SortingLayerTable"
    [.needed "layers" sortingLayerReader.list fun layers _ => ⟨layers⟩] ⟨[]⟩

/-- The tables as a file holds them. -/
def reader : TypedReader Tables :=
  .record "ProjectRegistries"
    [.of "tags" tagsReader fun tags tables => { tables with tags },
      .of "layers" layersReader fun layers tables => { tables with layers },
      .of "sorting_layers" sortingLayersReader
        fun sortingLayers tables => { tables with sortingLayers }]
    builtin

end GameScenes.Tables
