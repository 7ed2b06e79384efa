import GameScenes.Build.Context

/-!
# Building tile layers

A tilemap becomes one entity below the grid of its scene, which is made for the first layer.  A
tilemap whose tileset or image cannot be used leaves nothing but a fault.
-/

set_option autoImplicit false

namespace GameScenes.Build

open Document (Tilemap Tileset)
open Scene (Body Graph)
open Tiles (Atlas PaintedGrid SlicedAtlas)

def gridName : String := "Grid"

def layerName (spec : Tilemap) (index : Nat) : String :=
  if Text.isBlankText spec.name then "Tilemap" ++ Number.natText index else Text.trim spec.name

/-- The fault of a tilemap whose tileset does not exist. -/
def unknownTileset (layer tileset : String) : Diagnostic :=
  (((Diagnostic.warning .unknownTileset ("no tileset named '" ++ tileset ++ "'")).about
    layer).inField "tileset").withValue tileset

/-- The faults of the tiles of an atlas that lie outside it. -/
def outsideFaults (tileset : String) (names : List String) : List Diagnostic :=
  names.map fun name =>
    ((Diagnostic.warning .tileOutOfAtlas
      ("tile '" ++ name ++ "' lies outside the atlas of '" ++ tileset ++ "'")).about
        tileset).withValue name

def paintingFaults (layer tileset : String) (painted : PaintedGrid) : List Diagnostic :=
  painted.invalidLegendKeys.map (fun key =>
      (((Diagnostic.warning .invalidLegendKey
        "legend keys must be exactly one character").about layer).inField
          "grid.legend").withValue key) ++
    painted.unknown.map fun unknown =>
      (((Diagnostic.warning .unknownTileName
        ("tileset '" ++ tileset ++ "' has no tile '" ++ unknown.name ++ "'; " ++
          Number.natText unknown.cells ++ " cell(s) left empty")).about layer).inField
            "grid.rows").withValue unknown.name

/-- The size of a cell of a tilemap: the document's, if both extents are above zero, or else the
atlas's. -/
def cellSizeOf (spec : Tilemap) (atlas : Atlas) : Vector2 :=
  (spec.cellSize.filter fun size => 0 < size.x && 0 < size.y).getD atlas.cellSize

/-- A graph with the grid of the scene, which is made if there is none. -/
def ensureGrid (graph : Graph) : Option EntityId → Graph × EntityId
  | some root => (graph, root)
  | none => graph.spawn gridName none

structure TilemapStep where
  context : Context
  graph : Graph
  grid : Option EntityId
  layer : Option EntityId

/-- Builds the layer of a tilemap from its sliced atlas. -/
def paintTilemap (ctx : Context) (graph : Graph) (grid : Option EntityId) (spec : Tilemap)
    (name : String) (asset : ImportedAsset) (sliced : SlicedAtlas) : TilemapStep :=
  let atlas := sliced.atlas
  let painted := Tiles.paintGrid spec.grid atlas
  let ctx := ctx.recordAll
    (outsideFaults atlas.tileset sliced.outOfRange ++ paintingFaults name atlas.tileset painted)
  let cellSize := cellSizeOf spec atlas
  let (ctx, sortingLayer) := ctx.registerSortingLayer (spec.sortingLayer.getD "")
  let (graph, root) := ensureGrid graph grid
  let (graph, layer) := graph.spawn name (some root)
  let graph := graph.modify layer fun e =>
    { e with
      transform := { e.transform with position := ⟨spec.origin.x, spec.origin.y, 0⟩ }
      components := { e.components with
        body := if spec.collider = .composite then some Body.fixed else e.components.body
        tileLayer := some
          { tileset := atlas.tileset
            atlasPath := asset.canonicalPath
            cellSize
            sortingLayer
            orderInLayer := spec.orderInLayer
            tiles := painted.tiles
            collision := Tiles.collisionOf spec.collider painted.filledCells cellSize } } }
  ⟨ctx, graph, some root, some layer⟩

/-- Builds the layer of the tilemap at a position; of several tilesets with its name the first is
meant. -/
def buildTilemap (ctx : Context) (graph : Graph) (grid : Option EntityId) (spec : Tilemap)
    (index : Nat) (tilesets : List Tileset) : TilemapStep :=
  let name := layerName spec index
  match tilesets.find? (·.name == spec.tileset) with
  | none => ⟨ctx.record (unknownTileset name spec.tileset), graph, grid, none⟩
  | some tileset =>
      match ctx.importAsset tileset.image name "tileset.image" with
      | (ctx, none) => ⟨ctx, graph, grid, none⟩
      | (ctx, some asset) =>
          match Tiles.sliceAtlas tileset asset.pixelSize ctx.pixelsPerUnit with
          | .error fault =>
              ⟨ctx.record (((Diagnostic.warning .invalidTileset fault.message).about
                name).withValue tileset.name), graph, grid, none⟩
          | .ok sliced => paintTilemap ctx graph grid spec name asset sliced

end GameScenes.Build
