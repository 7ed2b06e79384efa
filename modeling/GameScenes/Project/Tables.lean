import GameScenes.Json.Decoder

/-!
# Tags, layers and sorting layers of a project

The three tables only grow.  Tags and sorting layers are lists without end; layers have 32 slots,
of which the first eight belong to the host and are never given out.  A new sorting layer gets an
identifier drawn at random, which is not zero and not taken.
-/

set_option autoImplicit false

namespace GameScenes

/-- Whether a name was there already. -/
inductive Registration where
  | existing
  | added
  deriving DecidableEq, Repr

/-! ## Tags -/

/-- The tags of a project in the order of their registration. -/
structure TagTable where
  tags : List String
  deriving DecidableEq, Repr

namespace TagTable

def builtin : TagTable :=
  ⟨["Untagged", "Respawn", "Finish", "EditorOnly", "MainCamera", "Player", "GameController"]⟩

/-- Adds a tag unless it is there. -/
def register (table : TagTable) (tag : String) : TagTable × Registration :=
  if table.tags.contains tag then (table, .existing) else (⟨table.tags ++ [tag]⟩, .added)

end TagTable

/-! ## Layers -/

def layerSlotCount : Nat := 32

/-- The first slot that documents may fill. -/
def firstUserLayer : Nat := 8

/-- The slot of the layer of the user interface. -/
def uiLayerIndex : Nat := 5

/-- The layers of a project by slot. -/
structure LayerTable where
  slots : List (Option String)
  size_eq : slots.length = layerSlotCount := by decide

instance : DecidableEq LayerTable := fun a b =>
  match a, b with
  | ⟨as, _⟩, ⟨bs, _⟩ =>
      if same : as = bs then isTrue (by subst same; rfl)
      else isFalse fun equal => same (congrArg LayerTable.slots equal)

namespace LayerTable

/-- A table of the first 32 of the given slots, with free ones where there are fewer. -/
def ofSlots (slots : List (Option String)) : LayerTable where
  slots := (slots ++ List.replicate layerSlotCount none).take layerSlotCount
  size_eq := by simp

/-- The layers that every project has. -/
def builtin : LayerTable :=
  ofSlots [some "Default", some "TransparentFX", some "Ignore Raycast", none, some "Water",
    some "UI"]

/-- The first slot with a name. -/
def indexOf? (table : LayerTable) (layer : String) : Option Nat :=
  table.slots.findIdx? (· == some layer)

/-- The first free slot from `start` on. -/
def freeSlot? (table : LayerTable) : Option Nat :=
  ((table.slots.drop firstUserLayer).findIdx? (·.isNone)).map (· + firstUserLayer)

/-- A table with a name in a slot. -/
def put (table : LayerTable) (index : Nat) (layer : String) : LayerTable where
  slots := table.slots.set index (some layer)
  size_eq := by simp [table.size_eq]

/-- Finds a layer or gives it the first free slot; nothing when no slot is free. -/
def register (table : LayerTable) (layer : String) :
    Option (Nat × Registration) × LayerTable :=
  match table.indexOf? layer with
  | some index => (some (index, .existing), table)
  | none =>
      match table.freeSlot? with
      | some index => (some (index, .added), table.put index layer)
      | none => (none, table)

def maskFor? (table : LayerTable) (layer : String) : Option UInt32 :=
  (table.indexOf? layer).map fun index => 1 <<< UInt32.ofNat index

/-- The slots that have names, in ascending order. -/
def namedSlots (table : LayerTable) : List (Nat × String) :=
  table.slots.zipIdx.filterMap fun (slot, index) => slot.map fun name => (index, name)

/-- The message that no slot is free for a layer. -/
def capacityMessage (layer : String) : String :=
  "all " ++ Number.natText (layerSlotCount - firstUserLayer) ++
    " user layer slots are taken; cannot add '" ++ layer ++ "'"

end LayerTable

/-! ## Sorting layers -/

structure SortingLayer where
  name : String
  uniqueId : UInt32
  deriving DecidableEq, Repr

/-- Random words: all of them in order, and how many were used. -/
structure Draws where
  source : Nat → UInt32
  used : Nat

/-- The sorting layers of a project in the order of their registration. -/
structure SortingLayerTable where
  layers : List SortingLayer
  deriving DecidableEq, Repr

namespace SortingLayerTable

def usualName : String := "Default"

/-- The table of a new project. -/
def builtin : SortingLayerTable := ⟨[⟨usualName, 0⟩]⟩

def has (table : SortingLayerTable) (name : String) : Bool :=
  table.layers.any (·.name == name)

/-- Whether an identifier may be given to a new layer. -/
def isFree (table : SortingLayerTable) (id : UInt32) : Bool :=
  id != 0 && table.layers.all (·.uniqueId != id)

/-- The place of the first of the next draws that may be given out; it is looked for until there is
one. -/
def drawnAt (table : SortingLayerTable) (draws : Draws) : Nat := Id.run do
  let mut place := draws.used
  while !table.isFree (draws.source place) do
    place := place + 1
  return place

/-- The least identifier that may be given out. -/
def leastFree? (table : SortingLayerTable) : Option UInt32 :=
  ((List.range' 1 (table.layers.length + 1)).map UInt32.ofNat).find? table.isFree

/-- The identifier of a new layer: the first draw that may be given out, or else, should no draw
ever do, the least identifier that may; nothing when all identifiers are taken. -/
def nextId? (table : SortingLayerTable) (draws : Draws) : Option (UInt32 × Draws) :=
  let place := table.drawnAt draws
  if table.isFree (draws.source place) then
    some (draws.source place, { draws with used := place + 1 })
  else table.leastFree?.map fun id => (id, draws)

/-- Adds a sorting layer unless its name is there.  A table in which all identifiers are taken
stays as it is. -/
def register (table : SortingLayerTable) (draws : Draws) (name : String) :
    SortingLayerTable × Draws :=
  if table.has name then (table, draws)
  else
    match table.nextId? draws with
    | some (id, draws) => (⟨table.layers ++ [⟨name, id⟩]⟩, draws)
    | none => (table, draws)

end SortingLayerTable

/-! ## The three tables -/

structure Tables where
  tags : TagTable
  layers : LayerTable
  sortingLayers : SortingLayerTable
  deriving DecidableEq

namespace Tables

/-- The tables of a new project. -/
def builtin : Tables := ⟨TagTable.builtin, LayerTable.builtin, SortingLayerTable.builtin⟩

def toJson (tables : Tables) : Json :=
  .object
    [("tags", .object [("tags", .array (tables.tags.tags.map .text))]),
      ("layers", .object [("slots", .array (tables.layers.slots.map fun slot =>
        match slot with
        | some name => .text name
        | none => .null))]),
      ("sorting_layers", .object [("layers", .array (tables.sortingLayers.layers.map fun layer =>
        .object [("name", .text layer.name),
          ("unique_id", .number (.int layer.uniqueId.toNat))]))])]

open Json Json.Decoder

def decodeTags : Decoder TagTable :=
  record "TagTable" [.needed "tags" (list text) fun tags _ => ⟨tags⟩] ⟨[]⟩

/-- A layer table with any number of slots. -/
def decodeLayers : Decoder LayerTable :=
  mapped (record "LayerTable" [.needed "slots" (list (optional text)) fun slots _ => slots] [])
    LayerTable.ofSlots

def decodeSortingLayer : Decoder SortingLayer :=
  record "SortingLayer"
    [.needed "name" text fun name layer => { layer with name },
      .needed "unique_id" word fun uniqueId layer => { layer with uniqueId }]
    ⟨"", 0⟩

def decodeSortingLayers : Decoder SortingLayerTable :=
  record "SortingLayerTable"
    [.needed "layers" (list decodeSortingLayer) fun layers _ => ⟨layers⟩] ⟨[]⟩

/-- The tables; one that is missing is a new project's. -/
def decode : Decoder Tables :=
  record "ProjectRegistries"
    [.of "tags" decodeTags fun tags tables => { tables with tags },
      .of "layers" decodeLayers fun layers tables => { tables with layers },
      .of "sorting_layers" decodeSortingLayers
        fun sortingLayers tables => { tables with sortingLayers }]
    builtin

end Tables

end GameScenes
