import GameScenes.Proofs.Build.Replay

/-!
# What building records

Besides what it reads to build entities, building only adds to the faults of a run.  Two contexts in
which it reads the same and in which the same faults are recorded so far therefore go on with the
same faults, whatever tags and sorting layers their tables hold and whatever draws they have left
(`concur_compileScene`, `concur_prepareScenes`).
-/

set_option autoImplicit false

namespace GameScenes.Build

open Document (Element Game Object SceneEntry Settings Sprite Tilemap Tileset)
open Scene (ButtonAction Graph)
open Tiles (SlicedAtlas)

/-- What building reads of a context, with the faults recorded so far. -/
structure View where
  core : Core
  layers : LayerTable
  log : DiagnosticLog

namespace Context

def view (ctx : Context) : View := ⟨ctx.core, ctx.layers, ctx.log⟩

/-- That two steps come to one value and to contexts with one view. -/
def Concur {α : Type} (x y : Context × α) : Prop :=
  ∃ c d a, x = (c, a) ∧ y = (d, a) ∧ c.view = d.view

variable {c d : Context}

theorem Concur.intro {α : Type} (same : c.view = d.view) (a : α) : Concur (c, a) (d, a) :=
  ⟨c, d, a, rfl, rfl, same⟩

theorem Concur.view {α : Type} {x y : Context × α} (both : Concur x y) : x.1.view = y.1.view := by
  obtain ⟨c, d, a, rfl, rfl, same⟩ := both
  exact same

theorem Concur.value {α : Type} {x y : Context × α} (both : Concur x y) : x.2 = y.2 := by
  obtain ⟨c, d, a, rfl, rfl, -⟩ := both
  rfl

/-! ## Faults -/

theorem view_record (same : c.view = d.view) (fault : Diagnostic) :
    (c.record fault).view = (d.record fault).view :=
  congrArg (fun v : View => { v with log := v.log.push fault }) same

theorem view_recordAll (same : c.view = d.view) (faults : List Diagnostic) :
    (c.recordAll faults).view = (d.recordAll faults).view :=
  congrArg (fun v : View => { v with log := v.log.pushAll faults }) same

theorem view_enterScene (same : c.view = d.view) (scene : String) :
    (c.enterScene scene).view = (d.enterScene scene).view :=
  congrArg (fun v : View => { v with log := v.log.enterScene scene }) same

theorem view_leaveScene (same : c.view = d.view) :
    c.leaveScene.view = d.leaveScene.view :=
  congrArg (fun v : View => { v with log := v.log.leaveScene }) same

theorem view_located (same : c.view = d.view) (assets : AssetStore) :
    { c with assets }.view = { d with assets }.view :=
  congrArg (fun v : View => { v with core := { v.core with assets } }) same

/-! ## Tables and assets -/

theorem view_registerSortingLayer (ctx : Context) (raw : String) :
    (ctx.registerSortingLayer raw).1.view = ctx.view := by
  unfold registerSortingLayer
  dsimp only
  split <;> rfl

theorem concur_registerSortingLayer (same : c.view = d.view) (raw : String) :
    Concur (c.registerSortingLayer raw) (d.registerSortingLayer raw) := by
  rw [registerSortingLayer_pair c, registerSortingLayer_pair d]
  apply Concur.intro
  rw [view_registerSortingLayer, view_registerSortingLayer, same]

theorem concur_registerLayer (same : c.view = d.view) (raw subject : String) :
    Concur (c.registerLayer raw subject) (d.registerLayer raw subject) := by
  have layers : c.tables.layers = d.tables.layers := congrArg View.layers same
  unfold registerLayer
  dsimp only
  rw [layers]
  split
  · next slot _ filled _ =>
      exact .intro (congrArg (fun v : View => { v with layers := filled }) same) _
  · exact .intro (view_record same _) none

theorem view_imported (same : c.view = d.view) (imports : ImportCache)
    (asked : List AssetCandidate) :
    { c with imports, asked := c.asked ++ asked }.view =
      { d with imports, asked := d.asked ++ asked }.view :=
  congrArg (fun v : View =>
    { v with core := { v.core with imports, asked := v.core.asked ++ asked } }) same

theorem concur_importAsset (same : c.view = d.view) (raw subject field : String) :
    Concur (c.importAsset raw subject field) (d.importAsset raw subject field) := by
  have imports : c.imports = d.imports := congrArg (fun v => v.core.imports) same
  have assets : c.assets = d.assets := congrArg (fun v => v.core.assets) same
  have steps : c.imports.importAsset c.assets raw = d.imports.importAsset d.assets raw := by
    rw [imports, assets]
  unfold importAsset
  dsimp only
  rw [steps]
  split
  · exact .intro (view_imported same _ _) _
  · exact .intro (view_record (view_imported same _ _) _) none

theorem concur_readColor (same : c.view = d.view) (raw : Option String) (subject field : String) :
    Concur (c.readColor raw subject field) (d.readColor raw subject field) := by
  unfold readColor
  split
  · exact .intro same _
  · split
    · exact .intro same _
    · exact .intro (view_record same _) _

end Context

open Context

variable {c d : Context}

/-! ## Objects -/

theorem concur_findParent (same : c.view = d.view) (graph : Graph) (spec : Object)
    (name : String) : Concur (findParent c graph spec name) (findParent d graph spec name) := by
  unfold findParent
  split
  · exact .intro same none
  · split
    · exact .intro same _
    · exact .intro (view_record same _) none

theorem concur_registerTag? (same : c.view = d.view) (raw : Option String) :
    Concur (registerTag? c raw) (registerTag? d raw) := by
  unfold registerTag?
  split
  · exact .intro same none
  · exact .intro (c := (c.registerTag _).1) (d := (d.registerTag _).1) same _

theorem concur_registerLayer? (same : c.view = d.view) (raw : Option String) (subject : String) :
    Concur (registerLayer? c raw subject) (registerLayer? d raw subject) := by
  unfold registerLayer?
  split
  · exact .intro same none
  · exact concur_registerLayer same _ subject

theorem concur_buildVisual (same : c.view = d.view) (sprite : Sprite) (subject : String) :
    Concur (buildVisual c sprite subject) (buildVisual d sprite subject) := by
  have usual : c.pixelsPerUnit = d.pixelsPerUnit := congrArg (fun v => v.core.pixelsPerUnit) same
  unfold buildVisual
  split
  · exact .intro same none
  · next path _ =>
      obtain ⟨first, second, asset, left, right, opened⟩ :=
        concur_importAsset same path subject "sprite.path"
      rw [left, right]
      cases asset with
      | none => exact .intro opened none
      | some asset =>
          have pixels : first.pixelsPerUnit = second.pixelsPerUnit :=
            congrArg (fun v => v.core.pixelsPerUnit) opened
          obtain ⟨third, fourth, color, left, right, colored⟩ :=
            concur_readColor opened sprite.color subject "sprite.color"
          dsimp only
          rw [left, right, pixels]
          obtain ⟨fifth, sixth, layer, left, right, sorted⟩ :=
            concur_registerSortingLayer colored (sprite.sortingLayer.getD "")
          dsimp only
          rw [left, right]
          exact .intro sorted _

theorem concur_buildVisual? (same : c.view = d.view) (sprite : Option Sprite) (subject : String) :
    Concur (buildVisual? c sprite subject) (buildVisual? d sprite subject) := by
  unfold buildVisual?
  split
  · exact .intro same none
  · exact concur_buildVisual same _ subject

/-- Behaviors are attached in the same way in contexts with one view, with the same faults. -/
theorem concur_attach (same : c.view = d.view) (graph : Graph) (entity : EntityId)
    (scripts : List Document.Binding) :
    Behavior.attach c.behaviors c.tables.layers graph entity scripts =
      Behavior.attach d.behaviors d.tables.layers graph entity scripts := by
  rw [show c.behaviors = d.behaviors from congrArg (fun v => v.core.behaviors) same,
    show c.tables.layers = d.tables.layers from congrArg View.layers same]

theorem concur_buildEntity (same : c.view = d.view) (graph : Graph) (spec : Object) :
    Concur (buildEntity c graph spec) (buildEntity d graph spec) := by
  unfold buildEntity
  extract_lets name
  obtain ⟨c, d, parent, left, right, same⟩ := concur_findParent same graph spec name
  rw [left, right]
  dsimp only
  obtain ⟨c, d, tag, left, right, same⟩ := concur_registerTag? same spec.tag
  rw [left, right]
  dsimp only
  obtain ⟨c, d, layer, left, right, same⟩ := concur_registerLayer? same spec.layer name
  rw [left, right]
  dsimp only
  obtain ⟨c, d, visual, left, right, same⟩ := concur_buildVisual? same spec.sprite name
  rw [left, right]
  dsimp only
  rw [concur_attach same]
  exact .intro (view_recordAll same _) _

theorem concur_placeEntities (same : c.view = d.view) (graph : Graph) (specs : List Object) :
    Concur (placeEntities c graph specs) (placeEntities d graph specs) := by
  induction specs generalizing c d graph with
  | nil => exact .intro same graph
  | cons spec rest ih =>
      unfold placeEntities
      obtain ⟨c, d, built, left, right, same⟩ := concur_buildEntity same graph spec
      rw [left, right]
      exact ih same built.1

/-! ## Tilemaps -/

/-- That two tilemaps come to one graph and to contexts with one view. -/
structure TilemapStep.Concur (step other : TilemapStep) : Prop where
  view : step.context.view = other.context.view
  graph : step.graph = other.graph
  grid : step.grid = other.grid

theorem concur_paintTilemap (same : c.view = d.view) (graph : Graph) (grid : Option EntityId)
    (spec : Tilemap) (name : String) (asset : ImportedAsset) (sliced : SlicedAtlas) :
    (paintTilemap c graph grid spec name asset sliced).Concur
      (paintTilemap d graph grid spec name asset sliced) := by
  unfold paintTilemap
  extract_lets atlas painted first cellSize second
  have faulted : first.view = second.view := view_recordAll same _
  rw [registerSortingLayer_pair first, registerSortingLayer_pair second]
  exact ⟨(concur_registerSortingLayer faulted _).view, rfl, rfl⟩

theorem concur_buildTilemap (same : c.view = d.view) (graph : Graph) (grid : Option EntityId)
    (spec : Tilemap) (index : Nat) (tilesets : List Tileset) :
    (buildTilemap c graph grid spec index tilesets).Concur
      (buildTilemap d graph grid spec index tilesets) := by
  unfold buildTilemap
  extract_lets name
  split
  · exact ⟨view_record same _, rfl, rfl⟩
  · next tileset _ =>
      obtain ⟨c, d, asset, left, right, same⟩ :=
        concur_importAsset same tileset.image name "tileset.image"
      rw [left, right]
      cases asset with
      | none => exact ⟨same, rfl, rfl⟩
      | some asset =>
          dsimp only
          rw [show c.pixelsPerUnit = d.pixelsPerUnit from
            congrArg (fun v => v.core.pixelsPerUnit) same]
          split
          · exact ⟨view_record same _, rfl, rfl⟩
          · exact concur_paintTilemap same graph grid spec name asset _

theorem concur_buildTilemaps (tilesets : List Tileset) (same : c.view = d.view) (graph : Graph)
    (grid : Option EntityId) (index : Nat) (specs : List Tilemap) :
    Concur (buildTilemaps tilesets c graph grid index specs)
      (buildTilemaps tilesets d graph grid index specs) := by
  induction specs generalizing c d graph grid index with
  | nil => exact .intro same graph
  | cons spec rest ih =>
      unfold buildTilemaps
      dsimp only
      obtain ⟨views, graphs, grids⟩ := concur_buildTilemap same graph grid spec index tilesets
      rw [graphs, grids]
      exact ih views _ _ (index + 1)

/-! ## Elements of the user interface -/

theorem concur_importSprite (same : c.view = d.view) (sprite : Option String) (subject : String) :
    Concur (importSprite c sprite subject) (importSprite d sprite subject) := by
  unfold importSprite
  split
  · exact .intro same none
  · next path _ =>
      obtain ⟨c, d, asset, left, right, same⟩ := concur_importAsset same path subject "sprite"
      rw [left, right]
      exact .intro same _

theorem concur_buildUiElement (same : c.view = d.view) (graph : Graph) (canvas : EntityId)
    (spec : Element) (action : Option ButtonAction) :
    Concur (buildUiElement c graph canvas spec action)
      (buildUiElement d graph canvas spec action) := by
  unfold buildUiElement
  extract_lets name
  obtain ⟨c, d, color, left, right, same⟩ := concur_readColor same spec.color name "color"
  rw [left, right]
  dsimp only
  obtain ⟨c, d, sprite, left, right, same⟩ := concur_importSprite same spec.sprite name
  rw [left, right]
  dsimp only
  rw [concur_attach same]
  exact .intro (view_recordAll same _) _

theorem concur_buildElements (canvas : EntityId) (same : c.view = d.view) (graph : Graph)
    (specs : List Element) (actions : List (Option ButtonAction)) :
    Concur (buildElements canvas c graph specs actions)
      (buildElements canvas d graph specs actions) := by
  induction specs generalizing c d graph actions with
  | nil => exact .intro same graph
  | cons spec rest ih =>
      unfold buildElements
      obtain ⟨c, d, built, left, right, same⟩ :=
        concur_buildUiElement same graph canvas spec (actions.head?.bind id)
      rw [left, right]
      exact ih same built.1 actions.tail

/-! ## Scenes -/

theorem concur_readBackground (same : c.view = d.view) (raw : Option String) :
    Concur (readBackground c raw) (readBackground d raw) := by
  unfold readBackground
  split
  · exact .intro same none
  · split
    · exact .intro same _
    · exact .intro (view_record same _) none

/-- In contexts with one view a scene is built as one artifact, with the same faults. -/
theorem concur_compileScene (same : c.view = d.view) (scene : Document.Scene)
    (gameTilesets : List Tileset) (actions : List (Option ButtonAction))
    (provenance : Provenance) :
    Concur (compileScene c scene gameTilesets actions provenance)
      (compileScene d scene gameTilesets actions provenance) := by
  unfold compileScene
  dsimp only
  have entered := view_enterScene same scene.name
  obtain ⟨c, d, background, left, right, same⟩ :=
    concur_readBackground entered scene.backgroundColor
  rw [left, right]
  dsimp only
  obtain ⟨c, d, graph, left, right, same⟩ := concur_placeEntities same
    (createUiRoots (createCamera Graph.empty scene.camera background).1 scene.uiSettings).1
    scene.gameObjects
  rw [left, right]
  dsimp only
  rw [show c.tables.layers = d.tables.layers from congrArg View.layers same]
  obtain ⟨c, d, graph, left, right, same⟩ := concur_buildTilemaps
    (scene.tilesets ++ gameTilesets) same
    (graph.alignToGround (d.tables.layers.indexOf? Scene.groundMarker)).1 none 0 scene.tilemaps
  rw [left, right]
  dsimp only
  obtain ⟨c, d, graph, left, right, same⟩ := concur_buildElements
    (createUiRoots (createCamera Graph.empty scene.camera background).1
      scene.uiSettings).2.canvas same graph scene.ui actions
  rw [left, right]
  exact .intro (view_leaveScene same) _

/-! ## Preparing a game -/

theorem concur_prepareAction (names : List String) (same : c.view = d.view) (element : Element) :
    Concur (prepareAction names c element) (prepareAction names d element) := by
  unfold prepareAction
  split
  · exact .intro same none
  · next action _ =>
      rw [show c.commands = d.commands from congrArg (fun v => v.core.commands) same]
      split
      · exact .intro same _
      · exact .intro (view_record same _) none

theorem concur_prepareElements (names : List String) (same : c.view = d.view)
    (elements : List Element) :
    Concur (prepareElements names c elements) (prepareElements names d elements) := by
  induction elements generalizing c d with
  | nil => exact .intro same []
  | cons element rest ih =>
      unfold prepareElements
      obtain ⟨c, d, action, left, right, same⟩ := concur_prepareAction names same element
      rw [left, right]
      dsimp only
      obtain ⟨c, d, actions, left, right, same⟩ := ih same
      rw [left, right]
      exact .intro same _

theorem concur_prepareScenes (names : List String) (same : c.view = d.view)
    (entries : List SceneEntry) :
    Concur (prepareScenes names c entries) (prepareScenes names d entries) := by
  induction entries generalizing c d with
  | nil => exact .intro same []
  | cons entry rest ih =>
      cases entry with
      | malformed fault =>
          unfold prepareScenes
          obtain ⟨c, d, actions, left, right, same⟩ := ih same
          rw [left, right]
          exact .intro same _
      | parsed scene =>
          unfold prepareScenes
          obtain ⟨c, d, first, left, right, same⟩ :=
            concur_prepareElements names (view_enterScene same scene.name) scene.ui
          rw [left, right]
          dsimp only
          obtain ⟨c, d, actions, left, right, same⟩ := ih (view_leaveScene same)
          rw [left, right]
          exact .intro same _

theorem view_foldl (enter : Context → String → Context)
    (kept : ∀ {c d : Context} (name : String), c.view = d.view →
      (enter c name).view = (enter d name).view)
    (same : c.view = d.view) (names : List String) :
    (names.foldl enter c).view = (names.foldl enter d).view := by
  induction names generalizing c d with
  | nil => exact same
  | cons name rest ih => exact ih (kept name same)

theorem view_applySettings (same : c.view = d.view) (settings : Settings) :
    (c.applySettings settings).view = (d.applySettings settings).view := by
  unfold applySettings
  dsimp only
  apply view_foldl _ fun name same => (concur_registerSortingLayer same name).view
  apply view_foldl _ fun name same => (concur_registerLayer same name "settings").view
  apply view_foldl (fun c tag => (c.registerTag tag).1) fun _ same => same
  exact congrArg (fun v : View =>
    { v with core := { v.core with pixelsPerUnit := settings.pixelsPerUnit } }) same

/-- A game is prepared in the same way, with the same faults, whatever tags and sorting layers its
project has and whatever is drawn. -/
theorem concur_prepare (options : Options) (assets : AssetStore) {tables others : Tables}
    (layers : tables.layers = others.layers) (draws again : Draws) (game : Game) :
    Concur (prepare options assets tables draws game)
      (prepare options assets others again game) := by
  unfold prepare prepareActions
  dsimp only
  apply concur_prepareScenes
  apply view_recordAll
  apply view_applySettings
  simp only [view, core, Context.layers, Context.start, layers]

end GameScenes.Build
