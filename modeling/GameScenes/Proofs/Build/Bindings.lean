import GameScenes.Behavior.Command
import GameScenes.Proofs.Behavior.Conforming
import GameScenes.Proofs.Build.Cast

/-!
# Bindings of scenes

The behaviors in a compiled scene conform to those that are registered: no field holds a value of
another type, and no value refers to an entity or a component that the scene does not have
(`compileScene_conforms`).
-/

set_option autoImplicit false

namespace GameScenes.Build

open Behavior (BehaviorsConform Index Keeps)
open Document (Binding Element Object Sprite Tilemap Tileset)
open Scene (ButtonAction Entity Graph UiRoots Visual)
open Context

/-! ## The behaviors of a run -/

theorem behaviors_of_core {c d : Context} (same : c.core = d.core) : c.behaviors = d.behaviors :=
  congrArg Core.behaviors same

section

variable (ctx : Context)

theorem behaviors_importAsset (raw subject field : String) :
    (ctx.importAsset raw subject field).1.behaviors = ctx.behaviors := by
  unfold importAsset
  dsimp only
  split <;> rfl

theorem behaviors_buildVisual? (sprite : Option Sprite) (subject : String) :
    (buildVisual? ctx sprite subject).1.behaviors = ctx.behaviors := by
  cases sprite with
  | none => rfl
  | some sprite =>
      show (buildVisual ctx sprite subject).1.behaviors = ctx.behaviors
      cases given : nonBlank? sprite.path with
      | none => rw [buildVisual_of_no_path ctx subject given]
      | some path =>
          obtain ⟨core, -, -⟩ := buildVisual_of_path ctx subject given
          exact (behaviors_of_core core).trans (behaviors_importAsset ctx _ _ _)

theorem behaviors_entityContext (graph : Graph) (spec : Object) :
    (entityContext ctx graph spec).behaviors = ctx.behaviors := by
  rw [entityContext, behaviors_buildVisual?]
  exact behaviors_of_core (core_layeredContext ctx graph spec)

theorem behaviors_buildEntity (graph : Graph) (spec : Object) :
    (buildEntity ctx graph spec).1.behaviors = ctx.behaviors := by
  obtain ⟨faults, whole⟩ := buildEntity_context ctx graph spec
  rw [whole]
  exact behaviors_entityContext ctx graph spec

theorem behaviors_placeEntities (graph : Graph) (specs : List Object) :
    (placeEntities ctx graph specs).1.behaviors = ctx.behaviors := by
  induction specs generalizing ctx graph with
  | nil => rfl
  | cons spec rest ih =>
      have stays := behaviors_buildEntity ctx graph spec
      unfold placeEntities
      generalize buildEntity ctx graph spec = built at stays ⊢
      obtain ⟨entered, grown, id⟩ := built
      exact (ih entered grown).trans stays

theorem behaviors_buildTilemap (graph : Graph) (grid : Option EntityId) (spec : Tilemap)
    (index : Nat) (tilesets : List Tileset) :
    (buildTilemap ctx graph grid spec index tilesets).context.behaviors = ctx.behaviors := by
  unfold buildTilemap
  extract_lets name
  split
  · rfl
  next tileset found =>
    have stays := behaviors_importAsset ctx tileset.image name "tileset.image"
    split
    next opened imported => rwa [imported] at stays
    next opened asset imported =>
      rw [imported] at stays
      split
      · exact stays
      next sliced cut =>
        have core := (paintTilemap_context opened graph grid spec name asset sliced).1
        exact (behaviors_of_core core).trans stays

theorem behaviors_buildTilemaps (tilesets : List Tileset) (graph : Graph)
    (grid : Option EntityId) (index : Nat) (specs : List Tilemap) :
    (buildTilemaps tilesets ctx graph grid index specs).1.behaviors = ctx.behaviors := by
  induction specs generalizing ctx graph grid index with
  | nil => rfl
  | cons spec rest ih =>
      unfold buildTilemaps
      rw [ih, behaviors_buildTilemap]

theorem behaviors_importSprite (sprite : Option String) (subject : String) :
    (importSprite ctx sprite subject).1.behaviors = ctx.behaviors := by
  unfold importSprite
  split
  · rfl
  · exact behaviors_importAsset ctx _ subject "sprite"

theorem behaviors_elementContext (spec : Element) :
    (elementContext ctx spec).behaviors = ctx.behaviors := by
  unfold elementContext
  rw [behaviors_importSprite]
  exact behaviors_of_core (ctx.core_readColor spec.color (Text.trim spec.displayName) "color")

theorem behaviors_buildUiElement (graph : Graph) (canvas : EntityId) (spec : Element)
    (action : Option ButtonAction) :
    (buildUiElement ctx graph canvas spec action).1.behaviors = ctx.behaviors := by
  obtain ⟨faults, whole⟩ := buildUiElement_context ctx graph canvas spec action
  rw [whole]
  exact behaviors_elementContext ctx spec

end

/-! ## Builders -/

section

variable {g : Graph} {index : Index} (honest : index.Honest) (orderly : g.Orderly)
  (conform : BehaviorsConform index g)

include honest orderly conform

/-- A new entity with its behaviors. -/
theorem addWearing_conform (layers : LayerTable) (name : String) {parent : Option EntityId}
    (valid : ∀ p, parent = some p → p < g.size) {fill : Entity → Entity}
    (links : ∀ e, (fill e).links = e.links)
    (bare : ∀ e, (fill e).components.behaviors = e.components.behaviors)
    (scripts : List Binding) :
    BehaviorsConform index
      (Behavior.attach index layers (g.add name parent fill) g.size scripts).1 := by
  exact Behavior.attach_conform (orderly.add name valid links) (Graph.lt_size_add ..) honest
    layers (conform.add orderly name valid bare) scripts

theorem placeEntity_conform (layers : LayerTable) (spec : Object) {parent : Option EntityId}
    (valid : ∀ p, parent = some p → p < g.size) (tag : Option String) (layer : Option Nat)
    (visual : Option Visual) :
    BehaviorsConform index (placeEntity index layers g spec parent tag layer visual).1 := by
  unfold placeEntity
  dsimp only
  rw [Graph.spawn_id]
  apply addWearing_conform honest orderly conform layers (Text.trim spec.displayName) valid
  · exact fun e => rfl
  · exact fun e => rfl

theorem placeElement_conform (layers : LayerTable) {canvas : EntityId} (inside : canvas < g.size)
    (spec : Element) (action : Option ButtonAction) (color : Color) (sprite : Option String) :
    BehaviorsConform index (placeElement index layers g canvas spec action color sprite).1 := by
  unfold placeElement
  dsimp only
  rw [Graph.spawn_id]
  apply addWearing_conform honest orderly conform layers (Text.trim spec.displayName)
    (Graph.lt_of_some inside)
  · exact fun e => rfl
  · exact fun e => rfl

theorem placeEntities_conform (ctx : Context) (own : ctx.behaviors = index)
    (specs : List Object) : BehaviorsConform index (placeEntities ctx g specs).2 := by
  induction specs generalizing g ctx with
  | nil => exact conform
  | cons spec rest ih =>
      obtain ⟨-, checks, gains⟩ := buildEntity_gains orderly ctx spec
      have next : BehaviorsConform index (buildEntity ctx g spec).2.1 := by
        rw [buildEntity_placed, behaviors_entityContext, own]
        exact placeEntity_conform honest orderly conform _ spec
          (findParent_lt orderly ctx spec (Text.trim spec.displayName)) _ _ _
      have stays := behaviors_buildEntity ctx g spec
      unfold placeEntities
      generalize buildEntity ctx g spec = built at gains next stays ⊢
      exact ih gains.orderly next built.1 (stays.trans own)

theorem buildElements_conform (ctx : Context) (own : ctx.behaviors = index) {canvas : EntityId}
    (inside : canvas < g.size) (specs : List Element) (actions : List (Option ButtonAction)) :
    BehaviorsConform index (buildElements canvas ctx g specs actions).2 := by
  induction specs generalizing g ctx actions with
  | nil => exact conform
  | cons spec rest ih =>
      obtain ⟨-, checks, gains⟩ := buildUiElement_gains orderly inside ctx spec
        (actions.head?.bind id)
      have next : BehaviorsConform index
          (buildUiElement ctx g canvas spec (actions.head?.bind id)).2.1 := by
        rw [buildUiElement_placed, behaviors_elementContext, own]
        exact placeElement_conform honest orderly conform _ inside spec _ _ _
      have stays := behaviors_buildUiElement ctx g canvas spec (actions.head?.bind id)
      unfold buildElements
      generalize buildUiElement ctx g canvas spec (actions.head?.bind id) = built
        at gains next stays ⊢
      have still : canvas < built.2.1.size := by
        rw [gains.size]
        exact Nat.lt_add_right _ inside
      exact ih gains.orderly next built.1 (stays.trans own) still actions.tail

end

/-! ## Tilemaps -/

section

variable {g : Graph} {index : Index} (orderly : g.Orderly) (conform : BehaviorsConform index g)

include orderly conform

/-- Over a grid, painting a tilemap keeps the behaviors conforming and the grid in the graph. -/
theorem paintTilemap_conform (ctx : Context) {root : EntityId} (inside : root < g.size)
    (spec : Tilemap) (position : Nat) (asset : ImportedAsset) (sliced : Tiles.SlicedAtlas) :
    (paintTilemap ctx g (some root) spec (layerName spec position) asset sliced).graph.Orderly ∧
      BehaviorsConform index
        (paintTilemap ctx g (some root) spec (layerName spec position) asset sliced).graph ∧
      ∀ other,
        (paintTilemap ctx g (some root) spec (layerName spec position) asset sliced).grid =
          some other →
        other < (paintTilemap ctx g (some root) spec (layerName spec position) asset
          sliced).graph.size := by
  obtain ⟨same, -, gains⟩ := paintTilemap_gains orderly ctx inside spec position asset sliced
  refine ⟨gains.orderly, ?_, ?_⟩
  · unfold paintTilemap
    extract_lets atlas painted faulted cellSize
    rw [registerSortingLayer_pair faulted]
    dsimp only [ensureGrid]
    rw [Graph.spawn_id]
    apply conform.add orderly (layerName spec position) (Graph.lt_of_some inside)
    exact fun e => rfl
  · intro other found
    rw [same, Option.some.injEq] at found
    rw [gains.size, ← found]
    exact Nat.lt_add_right _ inside

/-- The grid that a tilemap needs is made if there is none. -/
theorem grid_conform : BehaviorsConform index (g.spawn gridName none).1 := by
  rw [Graph.spawn_eq_add]
  exact conform.add orderly gridName (by simp) fun e => rfl

/-- Every tilemap keeps the behaviors conforming and the grid, if there is one, in the graph. -/
theorem buildTilemap_conform (ctx : Context) {grid : Option EntityId}
    (inside : ∀ root, grid = some root → root < g.size) (spec : Tilemap) (position : Nat)
    (tilesets : List Tileset) :
    (buildTilemap ctx g grid spec position tilesets).graph.Orderly ∧
      BehaviorsConform index (buildTilemap ctx g grid spec position tilesets).graph ∧
      ∀ root, (buildTilemap ctx g grid spec position tilesets).grid = some root →
        root < (buildTilemap ctx g grid spec position tilesets).graph.size := by
  rcases buildTilemap_cases ctx g grid spec position tilesets with
    ⟨graph, same, -⟩ | ⟨imported, asset, sliced, painted⟩
  · rw [graph, same]
    exact ⟨orderly, conform, inside⟩
  · rw [painted]
    cases grid with
    | some root =>
        exact paintTilemap_conform orderly conform imported (inside root rfl) spec position asset
          sliced
    | none =>
        rw [paintTilemap_none]
        exact paintTilemap_conform (gains_grid orderly).orderly (grid_conform orderly conform)
          imported (Graph.lt_size_spawn ..) spec position asset sliced

theorem buildTilemaps_conform (tilesets : List Tileset) (ctx : Context) {grid : Option EntityId}
    (inside : ∀ root, grid = some root → root < g.size) (position : Nat) (specs : List Tilemap) :
    BehaviorsConform index (buildTilemaps tilesets ctx g grid position specs).2 := by
  induction specs generalizing g grid ctx position with
  | nil => exact conform
  | cons spec rest ih =>
      obtain ⟨further, next, still⟩ :=
        buildTilemap_conform orderly conform ctx inside spec position tilesets
      exact ih further next _ still _

end

/-! ## Scenes -/

theorem createCamera_conform {g : Graph} {index : Index} (orderly : g.Orderly)
    (conform : BehaviorsConform index g) (spec : Document.Camera) (background : Option Color) :
    BehaviorsConform index (createCamera g spec background).1 := by
  unfold createCamera
  dsimp only
  rw [Graph.spawn_id]
  apply conform.add orderly mainCameraName (by simp)
  exact fun e => rfl

theorem createUiRoots_conform {g : Graph} {index : Index} (orderly : g.Orderly)
    (conform : BehaviorsConform index g) (settings : Document.CanvasSettings) :
    BehaviorsConform index (createUiRoots g settings).1 := by
  unfold createUiRoots
  dsimp only
  rw [Graph.spawn_id, Graph.spawn_id]
  refine BehaviorsConform.add ?_ ?_ eventSystemName (by simp) ?_
  · apply conform.add orderly canvasName (by simp)
    exact fun e => rfl
  · apply orderly.add canvasName (by simp)
    exact fun e => rfl
  · exact fun e => rfl

theorem frameOf_conform (index : Index) (scene : Document.Scene) (background : Option Color) :
    BehaviorsConform index (frameOf scene background).1 := by
  obtain ⟨-, camera⟩ := createCamera_gains Graph.orderly_empty scene.camera background
  exact createUiRoots_conform camera.orderly (createCamera_conform Graph.orderly_empty
    (Behavior.behaviorsConform_empty index) scene.camera background) scene.uiSettings

/-- Moving entities changes neither their behaviors nor what a value may refer to. -/
theorem alike_conform {g h : Graph} {index : Index} (alike : Graph.AlikeUpToPlaces h g)
    (conform : BehaviorsConform index g) : BehaviorsConform index h := by
  refine conform.grow ?_ ?_
  · intro id e found
    exact Keeps.of_views (alike.get? id) (fun e => rfl) (fun e => rfl) found
  · intro id later there i member
    obtain ⟨e, found, same⟩ :=
      Behavior.behaviors_of_views (alike.get? id) (fun e => rfl) there
    rw [same] at member
    exact .inl ⟨e, found, member⟩

section

variable (ctx : Context) (scene : Document.Scene) (gameTilesets : List Tileset)
  (actions : List (Option ButtonAction))

theorem behaviors_backgroundStep : (backgroundStep ctx scene).1.behaviors = ctx.behaviors :=
  behaviors_of_core (core_backgroundStep ctx scene)

theorem behaviors_entityStep : (entityStep ctx scene).1.behaviors = ctx.behaviors :=
  (behaviors_placeEntities _ _ _).trans (behaviors_backgroundStep ctx scene)

theorem behaviors_tilemapStep :
    (tilemapStep ctx scene gameTilesets).1.behaviors = ctx.behaviors :=
  (behaviors_buildTilemaps _ _ _ _ _ _).trans (behaviors_entityStep ctx scene)

/-- When all registered binders are honest, the behaviors in a compiled scene conform to those that
are registered. -/
theorem compileScene_conforms (provenance : Provenance) (honest : ctx.behaviors.Honest) :
    BehaviorsConform ctx.behaviors
      (compileScene ctx scene gameTilesets actions provenance).2.graph := by
  rw [compileScene_steps]
  obtain ⟨-, roots, frame⟩ := frameOf_gains scene (backgroundStep ctx scene).2
  obtain ⟨_, settled, -, -⟩ := settledGraph_gains ctx scene
  obtain ⟨_, _, painted, -⟩ := tilemapStep_gains ctx scene gameTilesets
  have entities : BehaviorsConform ctx.behaviors (entityStep ctx scene).2 :=
    placeEntities_conform honest frame.orderly (frameOf_conform ctx.behaviors scene _) _
      (behaviors_backgroundStep ctx scene) scene.gameObjects
  have settledConform : BehaviorsConform ctx.behaviors (settledGraph ctx scene) :=
    alike_conform (Graph.alignToGround_alikeUpToPlaces ..) entities
  have tiles : BehaviorsConform ctx.behaviors (tilemapStep ctx scene gameTilesets).2 :=
    buildTilemaps_conform settled.orderly settledConform _ _ (by simp) 0 scene.tilemaps
  have present : 1 < (tilemapStep ctx scene gameTilesets).2.size := by
    rw [painted.size]
    simp
    omega
  have canvas : (frameOf scene (backgroundStep ctx scene).2).2.canvas <
      (tilemapStep ctx scene gameTilesets).2.size := by
    rw [roots]
    exact present
  exact buildElements_conform honest painted.orderly tiles _
    (behaviors_tilemapStep ctx scene gameTilesets) canvas scene.ui actions

end

/-! ## A player -/

/-- A run with the built-in behaviors and without assets. -/
def builtinContext : Context :=
  Context.start Tables.builtin ⟨fun _ => 1, 0⟩ (Index.ofCatalogs [Behavior.builtinCatalog] [])
    Behavior.builtinCommands ⟨fun _ => .ok none, AssetCandidate.describe⟩
    Document.usualPixelsPerUnit

/-- A scene with a player that may jump twice, and then less than never. -/
def playerScene : Document.Scene :=
  { Document.Scene.blank with
    gameObjects := [{ Object.blank with
      scripts := [⟨"PlayerController",
        [("maxJumps", .number (.int 2)), ("MaxJumps", .number (.int (-2)))]⟩] }] }

/-- The number of jumps is stored and the place of the ground check is found. -/
theorem compileScene_conforms_player :
    ((compileScene builtinContext playerScene [] [] ⟨"", ""⟩).2.graph.get? 3).map (fun e =>
        e.components.behaviors.map fun i => i.fields.entries.map (·.1)) =
      some [["groundCheck", "maxJumps"]] ∧
    BehaviorsConform builtinContext.behaviors
      (compileScene builtinContext playerScene [] [] ⟨"", ""⟩).2.graph := by
  have honest : builtinContext.behaviors.Honest := by
    apply Index.honest_ofCatalogs
    intro catalog listed
    rw [List.mem_singleton.mp listed]
    exact Behavior.honest_builtinCatalog
  exact ⟨by decide +kernel, compileScene_conforms builtinContext playerScene [] [] ⟨"", ""⟩ honest⟩

end GameScenes.Build
