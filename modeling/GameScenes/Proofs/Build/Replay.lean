import GameScenes.Build.Game
import GameScenes.Proofs.Build.Readings

/-!
# Scenes built again

What a scene is built as depends on the core of its context and on the layers, and on nothing else
that a run has gathered before; neither on the tags, nor on the sorting layers with their random
identifiers.  Preparing a game leaves one core behind whatever the tables of the project hold.
-/

set_option autoImplicit false

namespace GameScenes.Build

open Behavior (Index builtinCatalog builtinCommands)
open Document (Element Game SceneEntry Settings Tileset)
open Scene (ButtonAction Graph UiRoots)
open Context

variable {c d : Context}

/-! ## Steps of a scene -/

theorem core_readBackground (ctx : Context) (raw : Option String) :
    (readBackground ctx raw).1.core = ctx.core := by
  unfold readBackground
  split
  · rfl
  · split <;> rfl

theorem layers_readBackground (ctx : Context) (raw : Option String) :
    (readBackground ctx raw).1.layers = ctx.layers := by
  unfold readBackground
  split
  · rfl
  · split <;> rfl

theorem readBackground_color (c d : Context) (raw : Option String) :
    (readBackground c raw).2 = (readBackground d raw).2 := by
  unfold readBackground
  split
  · rfl
  · split <;> rfl

def backgroundStep (ctx : Context) (scene : Document.Scene) : Context × Option Color :=
  readBackground (ctx.enterScene scene.name) scene.backgroundColor

/-- The graph of a scene before its first object. -/
def frameOf (scene : Document.Scene) (background : Option Color) : Graph × UiRoots :=
  createUiRoots (createCamera Graph.empty scene.camera background).1 scene.uiSettings

def entityStep (ctx : Context) (scene : Document.Scene) : Context × Graph :=
  let begun := backgroundStep ctx scene
  placeEntities begun.1 (frameOf scene begun.2).1 scene.gameObjects

/-- The graph of a scene with its entities where they settle. -/
def settledGraph (ctx : Context) (scene : Document.Scene) : Graph :=
  let placed := entityStep ctx scene
  (placed.2.alignToGround (placed.1.layers.indexOf? Scene.groundMarker)).1

def tilemapStep (ctx : Context) (scene : Document.Scene) (gameTilesets : List Tileset) :
    Context × Graph :=
  buildTilemaps (scene.tilesets ++ gameTilesets) (entityStep ctx scene).1 (settledGraph ctx scene)
    none 0 scene.tilemaps

def elementStep (ctx : Context) (scene : Document.Scene) (gameTilesets : List Tileset)
    (actions : List (Option ButtonAction)) : Context × Graph :=
  let tiled := tilemapStep ctx scene gameTilesets
  buildElements (frameOf scene (backgroundStep ctx scene).2).2.canvas tiled.1 tiled.2 scene.ui
    actions

theorem compileScene_steps (ctx : Context) (scene : Document.Scene) (gameTilesets : List Tileset)
    (actions : List (Option ButtonAction)) (provenance : Provenance) :
    compileScene ctx scene gameTilesets actions provenance =
      ((elementStep ctx scene gameTilesets actions).1.leaveScene,
        { name := scene.name
          compilerVersion := provenance.compilerVersion
          sourceDigest := provenance.sourceDigest
          graph := (elementStep ctx scene gameTilesets actions).2
          camera := some (createCamera Graph.empty scene.camera (backgroundStep ctx scene).2).2
          uiRoots := some (frameOf scene (backgroundStep ctx scene).2).2 }) := rfl

theorem core_backgroundStep (ctx : Context) (scene : Document.Scene) :
    (backgroundStep ctx scene).1.core = ctx.core := by
  rw [backgroundStep, core_readBackground, core_enterScene]

theorem layers_backgroundStep (ctx : Context) (scene : Document.Scene) :
    (backgroundStep ctx scene).1.layers = ctx.layers := by
  rw [backgroundStep, layers_readBackground, layers_enterScene]

theorem backgroundStep_congr (c d : Context) (scene : Document.Scene) :
    (backgroundStep c scene).2 = (backgroundStep d scene).2 :=
  readBackground_color (c.enterScene scene.name) (d.enterScene scene.name) scene.backgroundColor

theorem core_entityStep (same : c.core = d.core) (scene : Document.Scene) :
    (entityStep c scene).1.core = (entityStep d scene).1.core := by
  apply core_placeEntities
  rw [core_backgroundStep, core_backgroundStep, same]

theorem layers_entityStep (ctx : Context) (scene : Document.Scene) :
    (entityStep ctx scene).1.layers = ctx.layers.registerAll (layersOf scene.gameObjects) := by
  rw [entityStep, layers_placeEntities, layers_backgroundStep]

theorem entityStep_congr (same : c.core = d.core) (layers : c.layers = d.layers)
    (scene : Document.Scene) : (entityStep c scene).2 = (entityStep d scene).2 := by
  unfold entityStep
  dsimp only
  rw [backgroundStep_congr c d scene]
  apply placeEntities_congr
  · rw [core_backgroundStep, core_backgroundStep, same]
  · rw [layers_backgroundStep, layers_backgroundStep, layers]

theorem settledGraph_congr (same : c.core = d.core) (layers : c.layers = d.layers)
    (scene : Document.Scene) : settledGraph c scene = settledGraph d scene := by
  unfold settledGraph
  dsimp only
  rw [entityStep_congr same layers scene, layers_entityStep, layers_entityStep, layers]

theorem tilemapStep_congr (same : c.core = d.core) (scene : Document.Scene)
    (gameTilesets : List Tileset) :
    (tilemapStep c scene gameTilesets).1.core = (tilemapStep d scene gameTilesets).1.core ∧
      (c.layers = d.layers →
        (tilemapStep c scene gameTilesets).2 = (tilemapStep d scene gameTilesets).2) := by
  obtain ⟨cores, graphs⟩ := buildTilemaps_congr (scene.tilesets ++ gameTilesets)
    (core_entityStep same scene) (settledGraph c scene) (settledGraph d scene) none none 0
    scene.tilemaps
  exact ⟨cores, fun layers => graphs (settledGraph_congr same layers scene) rfl⟩

theorem layers_tilemapStep (ctx : Context) (scene : Document.Scene)
    (gameTilesets : List Tileset) :
    (tilemapStep ctx scene gameTilesets).1.layers =
      ctx.layers.registerAll (layersOf scene.gameObjects) := by
  rw [tilemapStep, layers_buildTilemaps, layers_entityStep]

/-! ## Scenes -/

theorem core_compileScene (same : c.core = d.core) (scene : Document.Scene)
    (gameTilesets : List Tileset) (actions : List (Option ButtonAction))
    (provenance : Provenance) :
    (compileScene c scene gameTilesets actions provenance).1.core =
      (compileScene d scene gameTilesets actions provenance).1.core := by
  rw [compileScene_steps, compileScene_steps, core_leaveScene, core_leaveScene]
  unfold elementStep
  dsimp only
  rw [backgroundStep_congr c d scene]
  exact core_buildElements (tilemapStep_congr same scene gameTilesets).1 _ _ _ _ _

/-- A scene registers the layers that its objects name. -/
theorem layers_compileScene (ctx : Context) (scene : Document.Scene)
    (gameTilesets : List Tileset) (actions : List (Option ButtonAction))
    (provenance : Provenance) :
    (compileScene ctx scene gameTilesets actions provenance).1.layers =
      ctx.layers.registerAll (layersOf scene.gameObjects) := by
  rw [compileScene_steps, layers_leaveScene, elementStep, layers_buildElements,
    layers_tilemapStep]

/-- What a scene is built as depends on the core and the layers of its context only. -/
theorem compileScene_congr (same : c.core = d.core) (layers : c.layers = d.layers)
    (scene : Document.Scene) (gameTilesets : List Tileset)
    (actions : List (Option ButtonAction)) (provenance : Provenance) :
    (compileScene c scene gameTilesets actions provenance).2 =
      (compileScene d scene gameTilesets actions provenance).2 := by
  obtain ⟨cores, graphs⟩ := tilemapStep_congr same scene gameTilesets
  have tables : (tilemapStep c scene gameTilesets).1.layers =
      (tilemapStep d scene gameTilesets).1.layers := by
    rw [layers_tilemapStep, layers_tilemapStep, layers]
  have background := backgroundStep_congr c d scene
  have elements : (elementStep c scene gameTilesets actions).2 =
      (elementStep d scene gameTilesets actions).2 := by
    unfold elementStep
    dsimp only
    rw [background, graphs layers]
    exact buildElements_congr cores tables _ _ _ _
  rw [compileScene_steps, compileScene_steps, elements, background]

/-! ## Preparing a game -/

theorem core_prepareAction (names : List String) (ctx : Context) (element : Element) :
    (prepareAction names ctx element).1.core = ctx.core := by
  unfold prepareAction
  split
  · rfl
  · split <;> rfl

theorem layers_prepareAction (names : List String) (ctx : Context) (element : Element) :
    (prepareAction names ctx element).1.layers = ctx.layers := by
  unfold prepareAction
  split
  · rfl
  · split <;> rfl

theorem prepareAction_congr (names : List String) (same : c.core = d.core)
    (element : Element) : (prepareAction names c element).2 = (prepareAction names d element).2 := by
  have commands : c.commands = d.commands := congrArg Core.commands same
  unfold prepareAction
  cases element.onClick with
  | none => rfl
  | some action =>
      dsimp only
      rw [commands]
      cases d.commands.prepare names action <;> rfl

theorem prepareElements_context (names : List String) (ctx : Context) (elements : List Element) :
    (prepareElements names ctx elements).1.core = ctx.core ∧
      (prepareElements names ctx elements).1.layers = ctx.layers := by
  induction elements generalizing ctx with
  | nil => exact ⟨rfl, rfl⟩
  | cons element rest ih =>
      unfold prepareElements
      dsimp only
      obtain ⟨core, layers⟩ := ih (prepareAction names ctx element).1
      exact ⟨core.trans (core_prepareAction names ctx element),
        layers.trans (layers_prepareAction names ctx element)⟩

theorem prepareElements_congr (names : List String) (same : c.core = d.core)
    (elements : List Element) :
    (prepareElements names c elements).2 = (prepareElements names d elements).2 := by
  induction elements generalizing c d with
  | nil => rfl
  | cons element rest ih =>
      unfold prepareElements
      dsimp only
      have cores : (prepareAction names c element).1.core =
          (prepareAction names d element).1.core := by
        rw [core_prepareAction, core_prepareAction, same]
      rw [prepareAction_congr names same element, ih cores]

theorem prepareScenes_context (names : List String) (ctx : Context) (entries : List SceneEntry) :
    (prepareScenes names ctx entries).1.core = ctx.core ∧
      (prepareScenes names ctx entries).1.layers = ctx.layers := by
  induction entries generalizing ctx with
  | nil => exact ⟨rfl, rfl⟩
  | cons entry rest ih =>
      cases entry with
      | malformed fault =>
          unfold prepareScenes
          exact ih ctx
      | parsed scene =>
          unfold prepareScenes
          dsimp only
          obtain ⟨core, layers⟩ := prepareElements_context names (ctx.enterScene scene.name) scene.ui
          obtain ⟨lastCore, lastLayers⟩ :=
            ih (prepareElements names (ctx.enterScene scene.name) scene.ui).1.leaveScene
          exact ⟨lastCore.trans core, lastLayers.trans layers⟩

theorem prepareScenes_congr (names : List String) (same : c.core = d.core)
    (entries : List SceneEntry) :
    (prepareScenes names c entries).2 = (prepareScenes names d entries).2 := by
  induction entries generalizing c d with
  | nil => rfl
  | cons entry rest ih =>
      cases entry with
      | malformed fault =>
          unfold prepareScenes
          dsimp only
          rw [ih same]
      | parsed scene =>
          unfold prepareScenes
          dsimp only
          have entered : (c.enterScene scene.name).core = (d.enterScene scene.name).core := same
          have cores : (prepareElements names (c.enterScene scene.name) scene.ui).1.leaveScene.core =
              (prepareElements names (d.enterScene scene.name) scene.ui).1.leaveScene.core := by
            rw [core_leaveScene, core_leaveScene, (prepareElements_context names _ _).1,
              (prepareElements_context names _ _).1, entered]
          rw [prepareElements_congr names entered scene.ui, ih cores]

def settingsLayers (settings : Settings) : List String := (named settings.layers).map Text.trim

theorem foldl_keeps {α : Type} (view : Context → α) (enter : Context → String → Context)
    (kept : ∀ c name, view (enter c name) = view c) (names : List String) (ctx : Context) :
    view (names.foldl enter ctx) = view ctx := by
  induction names generalizing ctx with
  | nil => rfl
  | cons name rest ih => exact (ih (enter ctx name)).trans (kept ctx name)

theorem layers_foldl_registerLayer (names : List String) (ctx : Context) :
    (names.foldl (fun c layer => (c.registerLayer layer "settings").1) ctx).layers =
      ctx.layers.registerAll (names.map Text.trim) := by
  induction names generalizing ctx with
  | nil => rfl
  | cons name rest ih =>
      rw [List.foldl_cons, ih, layers_registerLayer, List.map_cons, LayerTable.registerAll_cons]

theorem core_applySettings (ctx : Context) (settings : Settings) :
    (ctx.applySettings settings).core =
      { ctx.core with pixelsPerUnit := settings.pixelsPerUnit } := by
  unfold applySettings
  dsimp only
  rw [foldl_keeps core _ fun c name => c.core_registerSortingLayer name,
    foldl_keeps core _ fun c name => c.core_registerLayer name "settings",
    foldl_keeps core _ fun c name => c.core_registerTag name]
  rfl

theorem layers_applySettings (ctx : Context) (settings : Settings) :
    (ctx.applySettings settings).layers = ctx.layers.registerAll (settingsLayers settings) := by
  unfold applySettings
  dsimp only
  rw [foldl_keeps layers _ fun c name => c.layers_registerSortingLayer name,
    layers_foldl_registerLayer, foldl_keeps layers _ fun c name => c.layers_registerTag name]
  rfl

theorem layers_prepare (options : Options) (assets : AssetStore) (tables : Tables) (draws : Draws)
    (game : Game) :
    (prepare options assets tables draws game).1.layers =
      tables.layers.registerAll (settingsLayers game.settings) := by
  unfold prepare prepareActions
  dsimp only
  rw [(prepareScenes_context _ _ _).2, layers_recordAll, layers_applySettings]
  rfl

/-- What is prepared for a game has imported nothing yet. -/
theorem core_prepare (options : Options) (assets : AssetStore) (tables : Tables) (draws : Draws)
    (game : Game) :
    (prepare options assets tables draws game).1.core =
      ⟨ImportCache.empty, [], Index.ofCatalogs (builtinCatalog :: options.catalogs)
        options.precedence, builtinCommands, game.settings.pixelsPerUnit, assets⟩ := by
  unfold prepare prepareActions
  dsimp only
  rw [(prepareScenes_context _ _ _).1, core_recordAll, core_applySettings]
  rfl

/-- What is prepared for a game depends on the tables of the project in the layers only. -/
theorem prepare_congr (options : Options) (assets : AssetStore) (tables others : Tables)
    (draws again : Draws) (game : Game) :
    (prepare options assets tables draws game).1.core =
        (prepare options assets others again game).1.core ∧
      (prepare options assets tables draws game).2 =
        (prepare options assets others again game).2 := by
  refine ⟨(core_prepare ..).trans (core_prepare ..).symm, ?_⟩
  unfold prepare prepareActions
  dsimp only
  apply prepareScenes_congr
  rw [core_recordAll, core_recordAll, core_applySettings, core_applySettings]
  rfl

end GameScenes.Build
