import GameScenes.Document.Tiles
import GameScenes.Number.Digits
import Std.Data.HashMap

/-!
# Tile atlases

An atlas image is cut into equal cells, counted from the top left corner.  Every cell answers to
an automatic name, made of the name of the tileset and a number; the tiles that a document
declares add names of their own, which win over automatic ones.
-/

set_option autoImplicit false

namespace GameScenes.Tiles

structure AtlasCell where
  col : UInt32
  row : UInt32
  deriving DecidableEq, Repr

/-- Why a tileset cannot be used with its image. -/
inductive AtlasFault where
  | zeroTileSize (tileset : String)
  | atlasTooSmall (tileset : String) (width height tileWidth tileHeight : UInt32)
  deriving DecidableEq, Repr

def AtlasFault.message : AtlasFault → String
  | zeroTileSize tileset => "tileset '" ++ tileset ++ "' has no usable tile size"
  | atlasTooSmall tileset width height tileWidth tileHeight =>
      "atlas of tileset '" ++ tileset ++ "' (" ++ Number.natText width.toNat ++ "x" ++
        Number.natText height.toNat ++ ") is smaller than one " ++
        Number.natText tileWidth.toNat ++ "x" ++ Number.natText tileHeight.toNat ++ " tile"

/-- An image cut into cells, with the names of the cells. -/
structure Atlas where
  tileset : String
  image : String
  tileWidth : UInt32
  tileHeight : UInt32
  columns : UInt32
  rows : UInt32
  pixelsPerUnit : Float32
  names : Std.HashMap String AtlasCell

namespace Atlas

def cell? (atlas : Atlas) (name : String) : Option AtlasCell := atlas.names[name]?

def nameCount (atlas : Atlas) : Nat := atlas.names.size

def cellSize (atlas : Atlas) : Vector2 :=
  ⟨atlas.tileWidth.toFloat32 / atlas.pixelsPerUnit,
    atlas.tileHeight.toFloat32 / atlas.pixelsPerUnit⟩

end Atlas

/-- The number of a cell, counted along the rows of an atlas. -/
def AtlasCell.number (columns : UInt32) (cell : AtlasCell) : UInt32 :=
  cell.row * columns + cell.col

def AtlasCell.automaticName (tileset : String) (columns : UInt32) (cell : AtlasCell) : String :=
  tileset ++ "_" ++ Number.natText (cell.number columns).toNat

def atlasCells (columns rows : UInt32) : List AtlasCell :=
  (List.range rows.toNat).flatMap fun row =>
    (List.range columns.toNat).map fun col => ⟨UInt32.ofNat col, UInt32.ofNat row⟩

/-- The cell of an atlas in which a declared tile lies. -/
def cellOfTile (tileWidth tileHeight : UInt32) (tile : Document.Tile) : AtlasCell :=
  ⟨tile.x / tileWidth, tile.y / tileHeight⟩

def AtlasCell.isInside (columns rows : UInt32) (cell : AtlasCell) : Bool :=
  cell.col < columns && cell.row < rows

/-- Names with the cells they stand for, put into a map one after the other. -/
def nameCells (names : Std.HashMap String AtlasCell) (named : List (String × AtlasCell)) :
    Std.HashMap String AtlasCell :=
  named.foldl (fun map (name, cell) => map.insert name cell) names

/-- An atlas, and the names of the declared tiles that lie outside it. -/
structure SlicedAtlas where
  atlas : Atlas
  outOfRange : List String

/-- The pixels per unit of a tileset, which are the usual ones unless it gives a usable number. -/
def pixelsPerUnitOf (tileset : Document.Tileset) (usual : Float32) : Float32 :=
  match tileset.pixelsPerUnit with
  | some ppu => if Geometry.isPositive ppu then ppu else usual
  | none => usual

/-- Cuts the image of a tileset into cells and names them. -/
def sliceAtlas (tileset : Document.Tileset) (imageSize : UInt32 × UInt32) (usual : Float32) :
    Except AtlasFault SlicedAtlas :=
  let (tileWidth, tileHeight) := tileset.tilePixelSize
  if tileWidth = 0 ∨ tileHeight = 0 then .error (.zeroTileSize tileset.name)
  else
    let columns := imageSize.1 / tileWidth
    let rows := imageSize.2 / tileHeight
    if columns = 0 ∨ rows = 0 then
      .error (.atlasTooSmall tileset.name imageSize.1 imageSize.2 tileWidth tileHeight)
    else
      let automatic := (atlasCells columns rows).map fun cell =>
        (cell.automaticName tileset.name columns, cell)
      let declared := tileset.tiles.map fun tile =>
        (tile.name, cellOfTile tileWidth tileHeight tile)
      let (inside, outside) := declared.partition fun (_, cell) => cell.isInside columns rows
      .ok
        { atlas :=
            { tileset := tileset.name
              image := tileset.image
              tileWidth
              tileHeight
              columns
              rows
              pixelsPerUnit := pixelsPerUnitOf tileset usual
              names := nameCells (nameCells Std.HashMap.emptyWithCapacity automatic) inside }
          outOfRange := outside.map (·.1) }

end GameScenes.Tiles
