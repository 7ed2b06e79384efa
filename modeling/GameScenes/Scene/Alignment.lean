import GameScenes.Scene.Graph

/-!
# Alignment to the ground

Every entity with a picture and a dynamic body is moved up or down so that the bottom of its
picture touches the highest ground whose extent holds the middle of the picture.  Ground may move
itself; so the entities are settled from the lowest up, over and over until nothing moves any more
or every one has had its turn once more than there are entities to move.
-/

set_option autoImplicit false

namespace GameScenes.Scene

/-- The tag and the layer of ground. -/
def groundMarker : String := "Ground"

/-- Distances up to this one count as nothing. -/
def alignTolerance : Float32 := 0.001

/-- The move of an entity onto a ground. -/
structure Alignment where
  entity : EntityId
  ground : EntityId
  deltaY : Float32

namespace Graph

def isGround (groundLayer : Option Nat) (entity : Entity) : Bool :=
  entity.tag == groundMarker || some entity.layer == groundLayer

def grounds (g : Graph) (groundLayer : Option Nat) : List EntityId :=
  (g.entities.toList.filter (isGround groundLayer)).map (·.id)

/-- The extent of a ground: of its colliders, or else of its picture. -/
def surface? (g : Graph) (id : EntityId) : Option Bounds :=
  (g.colliderBounds? id).or (g.visualBounds? id)

def isMover (entity : Entity) : Bool :=
  entity.components.visual.isSome &&
    match entity.components.body with
    | some body => body.kind == .dynamic
    | none => false

/-- The entities to be aligned, from the lowest up. -/
def movers (g : Graph) : List EntityId :=
  let bottoms : List (EntityId × Int) := (g.entities.toList.filter isMover).filterMap fun e =>
    (g.visualBounds? e.id).map fun bounds => (e.id, Geometry.rank bounds.min.y)
  (bottoms.mergeSort fun a b => a.2 < b.2 || (a.2 == b.2 && a.1 ≤ b.1)).map (·.1)

/-- The surface with the highest top; of equal ones the last. -/
def highest? : List (EntityId × Bounds) → Option (EntityId × Bounds)
  | [] => none
  | s :: rest =>
      some (rest.foldl (fun best next =>
        if Geometry.rank best.2.max.y ≤ Geometry.rank next.2.max.y then next else best) s)

/-- The surfaces of other entities above or below a place. -/
def surfacesAt (g : Graph) (grounds : List EntityId) (entity : EntityId) (x : Float32) :
    List (EntityId × Bounds) :=
  (grounds.filter (· != entity)).filterMap fun ground =>
    match g.surface? ground with
    | some surface => if surface.spansX x then some (ground, surface) else none
    | none => none

/-- The move that an entity still needs. -/
def pendingMove? (g : Graph) (grounds : List EntityId) (entity : EntityId) :
    Option Alignment :=
  match g.visualBounds? entity with
  | none => none
  | some bounds =>
      match highest? (g.surfacesAt grounds entity bounds.center.x) with
      | none => none
      | some (ground, surface) =>
          let deltaY := surface.max.y - bounds.min.y
          if deltaY.abs ≤ alignTolerance then none else some ⟨entity, ground, deltaY⟩

/-- The moves of each entity with one more. -/
def recordMove (step : Alignment) : List Alignment → List Alignment
  | [] => [step]
  | a :: rest =>
      if a.entity = step.entity then
        { a with deltaY := a.deltaY + step.deltaY, ground := step.ground } :: rest
      else a :: recordMove step rest

/-- A graph while it is aligned: the moves so far and whether this pass moved anything. -/
structure Settling where
  graph : Graph
  moves : List Alignment
  moved : Bool

/-- Moves one entity if it needs to. -/
def settle (grounds : List EntityId) (s : Settling) (entity : EntityId) : Settling :=
  match s.graph.pendingMove? grounds entity with
  | none => s
  | some step =>
      { graph := s.graph.translateWorld entity ⟨0, step.deltaY⟩
        moves := recordMove step s.moves
        moved := true }

/-- Passes over all movers until one moves nothing, at most as many as given. -/
def passes (grounds movers : List EntityId) : Nat → Graph → List Alignment →
    Graph × List Alignment
  | 0, g, moves => (g, moves)
  | bound + 1, g, moves =>
      let pass := movers.foldl (settle grounds) ⟨g, moves, false⟩
      if pass.moved then passes grounds movers bound pass.graph pass.moves
      else (pass.graph, pass.moves)

/-- Aligns all movers; the moves are the net moves of the entities that have one. -/
def alignToGround (g : Graph) (groundLayer : Option Nat) : Graph × List Alignment :=
  let movers := g.movers
  let (aligned, moves) := passes (g.grounds groundLayer) movers (movers.length + 1) g []
  (aligned, moves.filter fun a => alignTolerance < a.deltaY.abs)

end Graph

end GameScenes.Scene
