import GameScenes.Geometry.Bounds
import GameScenes.Tiles.Painting

/-!
# Tile layers

A layer keeps its painted tiles and, as far as the document asks for it, what other bodies collide
with: one rectangle for every tile, or the outlines of all tiles together.
-/

set_option autoImplicit false

namespace GameScenes.Tiles

open Document (TileColliderKind)

/-- What stops other bodies at a layer, in the layer's own space. -/
inductive TileCollision where
  | none
  | simple (cells : List Bounds)
  | composite (outlines : List (List Vector2))

structure TileLayer where
  tileset : String
  atlasPath : String
  cellSize : Vector2
  sortingLayer : String
  orderInLayer : Int
  tiles : List PaintedTile
  collision : TileCollision

def Corner.place (cellSize : Vector2) (c : Corner) : Vector2 :=
  ⟨Number.singleOfInt c.x * cellSize.x, Number.singleOfInt c.y * cellSize.y⟩

def Cell.bounds (cellSize : Vector2) (c : Cell) : Bounds :=
  ⟨Corner.place cellSize ⟨c.x, c.y⟩, Corner.place cellSize ⟨c.x + 1, c.y + 1⟩⟩

def collisionOf (kind : TileColliderKind) (cells : List Cell) (cellSize : Vector2) :
    TileCollision :=
  match kind with
  | .none => .none
  | .simple => .simple (cells.map (·.bounds cellSize))
  | .composite =>
      .composite ((traceOutlines cells).map fun outline => outline.map (·.place cellSize))

end GameScenes.Tiles
