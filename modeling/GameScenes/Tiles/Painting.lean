import GameScenes.Tiles.Atlas
import GameScenes.Tiles.Outline

/-!
# Painting grids

The rows of a grid run from top to bottom, the rows of cells from bottom to top.  A character is
looked up in the legend first; without an entry there it is empty or names a tile by itself.
-/

set_option autoImplicit false

namespace GameScenes.Tiles

open Document (Grid)

/-- A cell that shows a tile. -/
structure PaintedTile where
  cell : Cell
  tile : String
  atlas : AtlasCell
  deriving DecidableEq, Repr

/-- A name that the atlas does not know, with the number of cells left empty for it. -/
structure UnknownTile where
  name : String
  cells : Nat
  deriving DecidableEq, Repr

/-- A grid turned into tiles: the tiles by rows from the bottom, and what could not be used. -/
structure PaintedGrid where
  tiles : List PaintedTile
  unknown : List UnknownTile
  invalidLegendKeys : List String

def PaintedGrid.filledCells (painted : PaintedGrid) : List Cell := painted.tiles.map (·.cell)

/-- What a character of a grid stands for. -/
inductive Mark where
  | empty
  | named (name : String)
  deriving DecidableEq, Repr

/-- The mark of a legend entry: no name and the empty name leave a cell empty. -/
def markOfEntry : Option String → Mark
  | none => .empty
  | some name => if name = "" then .empty else .named name

/-- The entries of a legend whose keys are one character. -/
def legendMarks (legend : List (String × Option String)) : List (Char × Mark) :=
  legend.filterMap fun (key, value) =>
    match key.toList with
    | [c] => some (c, markOfEntry value)
    | _ => none

def invalidKeys (legend : List (String × Option String)) : List String :=
  (legend.map (·.1)).filter fun key => key.toList.length != 1

/-- What a character stands for, by the entries of the legend, of which the last one counts. -/
def markOf (marks : List (Char × Mark)) (emptyChar c : Char) : Mark :=
  match marks.reverse.lookup c with
  | some mark => mark
  | none => if c = emptyChar ∨ c = ' ' then .empty else .named (String.singleton c)

/-- A cell that is not meant to be empty, with the name of its tile. -/
structure NamedCell where
  cell : Cell
  name : String

/-- The named cells of a row from column `x` on. -/
def namedCellsOfRow (mark : Char → Mark) (y : Nat) : Nat → List Char → List NamedCell
  | _, [] => []
  | x, c :: rest =>
      match mark c with
      | .empty => namedCellsOfRow mark y (x + 1) rest
      | .named name => ⟨⟨x, y⟩, name⟩ :: namedCellsOfRow mark y (x + 1) rest

/-- The named cells of rows that are given from bottom to top, the first of which is `y`. -/
def namedCells (mark : Char → Mark) : Nat → List String → List NamedCell
  | _, [] => []
  | y, row :: rest => namedCellsOfRow mark y 0 row.toList ++ namedCells mark (y + 1) rest

/-- Neighbouring equal names with their numbers. -/
def countRuns : List String → List UnknownTile
  | [] => []
  | name :: rest =>
      match countRuns rest with
      | [] => [⟨name, 1⟩]
      | run :: runs =>
          if run.name = name then ⟨name, run.cells + 1⟩ :: runs else ⟨name, 1⟩ :: run :: runs

/-- Every name once, in ascending order, with its number. -/
def countNames (names : List String) : List UnknownTile :=
  countRuns (names.mergeSort fun a b => !decide (b < a))

def paint? (atlas : Atlas) (named : NamedCell) : Option PaintedTile :=
  (atlas.cell? named.name).map fun cell => ⟨named.cell, named.name, cell⟩

def paintGrid (grid : Grid) (atlas : Atlas) : PaintedGrid :=
  let mark := markOf (legendMarks grid.legend) grid.emptyChar
  let named := namedCells mark 0 grid.rows.reverse
  { tiles := named.filterMap (paint? atlas)
    unknown := countNames
      ((named.filter fun cell => (atlas.cell? cell.name).isNone).map (·.name))
    invalidLegendKeys := invalidKeys grid.legend }

end GameScenes.Tiles
