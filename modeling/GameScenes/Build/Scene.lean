import GameScenes.Build.Interface
import GameScenes.Build.Tilemap
import GameScenes.Scene.Alignment

/-!
# Building scenes

A scene is built in one order: camera, background, roots of the user interface, entities,
alignment to the ground, tilemaps, elements of the user interface.  Faults inside one of these
steps are recorded and never stop the next.
-/

set_option autoImplicit false

namespace GameScenes.Build

open Document (Element Tilemap Tileset)
open Scene (Artifact ButtonAction Graph)

def mainCameraName : String := "Main Camera"

/-- The background color of a scene; an unusable text is a fault and gives no color. -/
def readBackground (ctx : Context) (raw : Option String) : Context × Option Color :=
  match raw with
  | none => (ctx, none)
  | some s =>
      match Color.ofText? s with
      | some color => (ctx, some color)
      | none =>
          (ctx.record ((((Diagnostic.warning .invalidColor
            "expected #RRGGBB or #RRGGBBAA").about mainCameraName).inField
              "backgroundColor").withValue s), none)

def createCamera (graph : Graph) (spec : Document.Camera) (background : Option Color) :
    Graph × EntityId :=
  let (graph, id) := graph.spawn mainCameraName none
  (graph.modify id fun e =>
    { e with
      tag := Scene.mainCameraTag
      transform := { e.transform with position := spec.position }
      components := { e.components with
        camera := some
          { orthographic := spec.orthographic
            size := if Geometry.isPositive spec.size then spec.size
              else Document.usualCameraSize
            clearColor := background
            primary := true } } }, id)

def placeEntities : Context → Graph → List Document.Object → Context × Graph
  | ctx, graph, [] => (ctx, graph)
  | ctx, graph, spec :: rest =>
      let (ctx, graph, _) := buildEntity ctx graph spec
      placeEntities ctx graph rest

/-- Builds tilemaps from a position on; the grid is made for the first layer. -/
def buildTilemaps (tilesets : List Tileset) :
    Context → Graph → Option EntityId → Nat → List Tilemap → Context × Graph
  | ctx, graph, _, _, [] => (ctx, graph)
  | ctx, graph, grid, index, spec :: rest =>
      let step := buildTilemap ctx graph grid spec index tilesets
      buildTilemaps tilesets step.context step.graph step.grid (index + 1) rest

/-- Builds elements of the user interface with their prepared actions. -/
def buildElements (canvas : EntityId) :
    Context → Graph → List Element → List (Option ButtonAction) → Context × Graph
  | ctx, graph, [], _ => (ctx, graph)
  | ctx, graph, spec :: rest, actions =>
      let (ctx, graph, _) := buildUiElement ctx graph canvas spec (actions.head?.bind id)
      buildElements canvas ctx graph rest actions.tail

/-- What all artifacts of a run have in common. -/
structure Provenance where
  compilerVersion : String
  sourceDigest : String
  deriving DecidableEq, Repr

/-- Builds a scene.  The tilesets of the scene come before those of the game. -/
def compileScene (ctx : Context) (scene : Document.Scene) (gameTilesets : List Tileset)
    (actions : List (Option ButtonAction)) (provenance : Provenance) : Context × Artifact :=
  let ctx := ctx.enterScene scene.name
  let (ctx, background) := readBackground ctx scene.backgroundColor
  let (graph, camera) := createCamera Graph.empty scene.camera background
  let (graph, roots) := createUiRoots graph scene.uiSettings
  let (ctx, graph) := placeEntities ctx graph scene.gameObjects
  let groundLayer := ctx.tables.layers.indexOf? Scene.groundMarker
  let (graph, _) := graph.alignToGround groundLayer
  let (ctx, graph) := buildTilemaps (scene.tilesets ++ gameTilesets) ctx graph none 0
    scene.tilemaps
  let (ctx, graph) := buildElements roots.canvas ctx graph scene.ui actions
  (ctx.leaveScene,
    { name := scene.name
      compilerVersion := provenance.compilerVersion
      sourceDigest := provenance.sourceDigest
      graph
      camera := some camera
      uiRoots := some roots })

end GameScenes.Build
