import Std.Data.HashSet

/-!
# Outlines of cell sets

The cells of a grid are unit squares.  The boundary of a set of cells consists of unit edges that
have a cell of the set on their left and none of it on their right.  `traceOutlines` joins these
edges to closed loops: at every corner the walk takes the leftmost edge that goes on, so that
regions which touch in one corner only stay apart.  Outer boundaries run counter-clockwise and
holes clockwise.  A loop is given by the corners at which it turns.
-/

set_option autoImplicit false

namespace GameScenes.Tiles

/-- A cell of a grid; `y` counts from the bottom. -/
structure Cell where
  x : Int
  y : Int
  deriving DecidableEq, Hashable, Repr

/-- A corner of the grid: the lower left one of the cell with the same coordinates. -/
structure Corner where
  x : Int
  y : Int
  deriving DecidableEq, Hashable, Repr

/-- A direction along the lines of the grid. -/
inductive Heading where
  | east
  | north
  | west
  | south
  deriving DecidableEq, Hashable, Repr

namespace Heading

/-- The direction after a turn to the left. -/
def left : Heading → Heading
  | east => north
  | north => west
  | west => south
  | south => east

/-- The opposite direction. -/
def back (h : Heading) : Heading := h.left.left

/-- The direction after a turn to the right. -/
def right (h : Heading) : Heading := h.left.left.left

/-- The place of a direction in the order east, north, west, south. -/
def rank : Heading → Nat
  | east => 0
  | north => 1
  | west => 2
  | south => 3

end Heading

/-- A unit edge of the grid with a direction. -/
structure Edge where
  start : Corner
  heading : Heading
  deriving DecidableEq, Hashable, Repr

namespace Edge

/-- The corner where an edge ends. -/
def target (e : Edge) : Corner :=
  match e.heading with
  | .east => ⟨e.start.x + 1, e.start.y⟩
  | .north => ⟨e.start.x, e.start.y + 1⟩
  | .west => ⟨e.start.x - 1, e.start.y⟩
  | .south => ⟨e.start.x, e.start.y - 1⟩

def leftCell (e : Edge) : Cell :=
  match e.heading with
  | .east => ⟨e.start.x, e.start.y⟩
  | .north => ⟨e.start.x - 1, e.start.y⟩
  | .west => ⟨e.start.x - 1, e.start.y - 1⟩
  | .south => ⟨e.start.x, e.start.y - 1⟩

def rightCell (e : Edge) : Cell :=
  match e.heading with
  | .east => ⟨e.start.x, e.start.y - 1⟩
  | .north => ⟨e.start.x, e.start.y⟩
  | .west => ⟨e.start.x - 1, e.start.y⟩
  | .south => ⟨e.start.x - 1, e.start.y - 1⟩

/-- Whether an edge stands before another in the order of start and direction. -/
def precedes (a b : Edge) : Bool :=
  if a.start.x ≠ b.start.x then a.start.x < b.start.x
  else if a.start.y ≠ b.start.y then a.start.y < b.start.y
  else a.heading.rank < b.heading.rank

/-- Whether an edge has a filled cell on its left and none on its right. -/
def isBoundary (filled : Cell → Bool) (e : Edge) : Bool :=
  filled e.leftCell && !filled e.rightCell

end Edge

/-- The four edges around a cell, which lies on their left. -/
def Cell.sides (c : Cell) : List Edge :=
  [⟨⟨c.x, c.y⟩, .east⟩, ⟨⟨c.x + 1, c.y⟩, .north⟩, ⟨⟨c.x + 1, c.y + 1⟩, .west⟩,
    ⟨⟨c.x, c.y + 1⟩, .south⟩]

/-- The boundary edges of the cells, in ascending order. -/
def boundaryEdges (filled : Cell → Bool) (cells : List Cell) : List Edge :=
  ((cells.flatMap Cell.sides).filter (·.isBoundary filled)).mergeSort fun a b => !b.precedes a

/-- The boundary edge that goes on where an edge ends; of several the one furthest to the left. -/
def nextEdge? (filled : Cell → Bool) (e : Edge) : Option Edge :=
  ([e.heading.left, e.heading, e.heading.right, e.heading.back].map
    fun heading => (⟨e.target, heading⟩ : Edge)).find? (·.isBoundary filled)

/-- The edges from one on, up to the first that was walked before, with all edges walked so far.
The walk takes at most as many steps as there are boundary edges. -/
def walk (filled : Cell → Bool) (walked : Std.HashSet Edge) (e : Edge) :
    Nat → List Edge × Std.HashSet Edge
  | 0 => ([], walked)
  | steps + 1 =>
      let walked := walked.insert e
      match nextEdge? filled e with
      | none => ([e], walked)
      | some next =>
          if walked.contains next then ([e], walked)
          else
            let (rest, walked) := walk filled walked next steps
            (e :: rest, walked)

/-- The walks that start at edges which no earlier walk took. -/
def walks (filled : Cell → Bool) (steps : Nat) (walked : Std.HashSet Edge) :
    List Edge → List (List Edge)
  | [] => []
  | e :: rest =>
      if walked.contains e then walks filled steps walked rest
      else
        let (edges, walked) := walk filled walked e steps
        edges :: walks filled steps walked rest

/-- The starts of the edges whose direction differs from that of the edge before. -/
def turnsAfter (previous : Heading) : List Edge → List Corner
  | [] => []
  | e :: rest =>
      if e.heading = previous then turnsAfter e.heading rest
      else e.start :: turnsAfter e.heading rest

/-- The corners at which a closed walk turns. -/
def turns (edges : List Edge) : List Corner :=
  match edges.getLast? with
  | none => []
  | some last => turnsAfter last.heading edges

/-- The loops around a set of cells, in the order of their first corners. -/
def traceOutlines (cells : List Cell) : List (List Corner) :=
  let filled := (Std.HashSet.ofList cells).contains
  let edges := boundaryEdges filled cells
  (walks filled edges.length Std.HashSet.emptyWithCapacity edges).map turns

end GameScenes.Tiles
