import GameScenes.Document.Placement
import GameScenes.Text.Case

/-!
# Tilesets and tilemaps in documents

A tileset names places of an atlas image; a tilemap draws rows of characters, which a legend
turns into tile names.
-/

set_option autoImplicit false

namespace GameScenes.Document

open Json Json.Decoder

/-- A named tile, by a pixel of the atlas inside it. -/
structure Tile where
  name : String
  x : UInt32
  y : UInt32

namespace Tile

/-- A tile without a name in the corner of the atlas. -/
def blank : Tile := ⟨"", 0, 0⟩

def decode : Decoder Tile :=
  record "TileCellSpec"
    [.of "name" text fun name t => { t with name }, .of "x" word fun x t => { t with x },
      .of "y" word fun y t => { t with y }]
    blank

end Tile

/-- An atlas image with its tiles. -/
structure Tileset where
  name : String
  image : String
  tileWidth : Option UInt32
  tileHeight : Option UInt32
  tileSize : Option UInt32
  pixelsPerUnit : Option Float32
  filterMode : Option String
  compression : Option String
  tiles : List Tile

namespace Tileset

/-- A tileset without an image. -/
def blank : Tileset := ⟨"", "", none, none, none, none, none, none, []⟩

def decode : Decoder Tileset :=
  record "TilesetSpec"
    [.of "name" text fun name t => { t with name },
      (RecordField.of "image" text fun image t => { t with image }).orElse ["path", "atlas"],
      .of "tileWidth" (optional word) fun tileWidth t => { t with tileWidth },
      .of "tileHeight" (optional word) fun tileHeight t => { t with tileHeight },
      .of "tileSize" (optional word) fun tileSize t => { t with tileSize },
      .of "pixelsPerUnit" (optional single) fun pixelsPerUnit t => { t with pixelsPerUnit },
      .of "filterMode" (optional text) fun filterMode t => { t with filterMode },
      .of "compression" (optional text) fun compression t => { t with compression },
      .of "tiles" (list Tile.decode) fun tiles t => { t with tiles }]
    blank

/-- Width and height of a tile in pixels; where one is missing the common size takes its place. -/
def tilePixelSize (t : Tileset) : UInt32 × UInt32 :=
  let usual := t.tileSize.getD 0
  (t.tileWidth.getD usual, t.tileHeight.getD usual)

end Tileset

/-- Rows of characters from top to bottom. -/
structure Grid where
  rows : List String
  legend : List (String × Option String)
  empty : Option String

namespace Grid

/-- A grid without rows. -/
def blank : Grid := ⟨[], [], none⟩

def decode : Decoder Grid :=
  record "TileGridSpec"
    [.of "rows" (list text) fun rows g => { g with rows },
      .of "legend" (dictionary (optional text)) fun legend g => { g with legend },
      .of "empty" (optional text) fun empty g => { g with empty }]
    blank

/-- The character that leaves a cell empty: the first one of the text that the document gives, or
a full stop. -/
def emptyChar (g : Grid) : Char :=
  match g.empty with
  | none => '.'
  | some s => s.toList.head?.getD '.'

end Grid

/-- What stops other bodies at the painted tiles. -/
inductive TileColliderKind where
  | none
  | simple
  | composite
  deriving DecidableEq, Repr

def TileColliderKind.ofWord (word : String) : TileColliderKind :=
  let lowered := Text.lower word
  if lowered = "simple" ∨ lowered = "tilemap" then .simple
  else if lowered = "composite" then .composite
  else .none

structure Tilemap where
  name : String
  tileset : String
  origin : Vector2
  cellSize : Option Vector2
  grid : Grid
  collider : TileColliderKind
  sortingLayer : Option String
  orderInLayer : Int

namespace Tilemap

/-- A layer without tiles. -/
def blank : Tilemap := ⟨"", "", Vector2.zero, none, Grid.blank, .none, none, 0⟩

def decode : Decoder Tilemap :=
  record "TilemapSpec"
    [.of "name" text fun name m => { m with name },
      .of "tileset" text fun tileset m => { m with tileset },
      .of "origin" vector2 fun origin m => { m with origin },
      .of "cellSize" (optional vector2) fun cellSize m => { m with cellSize },
      .of "grid" Grid.decode fun grid m => { m with grid },
      .of "collider" (mapped text TileColliderKind.ofWord) fun collider m => { m with collider },
      .of "sortingLayer" (optional text) fun sortingLayer m => { m with sortingLayer },
      (RecordField.of "orderInLayer" signedWord
        fun orderInLayer m => { m with orderInLayer }).orElse ["order"]]
    blank

end Tilemap

end GameScenes.Document
