import GameScenes.Proofs.Asset.Images
import GameScenes.Proofs.Build.Replay
import GameScenes.Proofs.Project.Entering

/-!
# What building enters into the tables

Building a scene enters tags, layers and sorting layers into the tables of a run.  What it enters
depends on the images that it finds, and not on what the tables hold already
(`together_compileScene`).
-/

set_option autoImplicit false

namespace GameScenes.Build

open Document (Element Game Object SceneEntry Settings Sprite Tilemap Tileset)
open Scene (ButtonAction Graph)
open Tables (Entry)
open Tiles (SlicedAtlas)

/-! ## Contexts -/

namespace Context

def ledger (ctx : Context) : Ledger := ⟨ctx.tables, ctx.draws⟩

variable (ctx : Context)

@[simp] theorem ledger_record (d : Diagnostic) : (ctx.record d).ledger = ctx.ledger := rfl

@[simp] theorem ledger_recordAll (ds : List Diagnostic) :
    (ctx.recordAll ds).ledger = ctx.ledger := rfl

@[simp] theorem ledger_enterScene (scene : String) :
    (ctx.enterScene scene).ledger = ctx.ledger := rfl

@[simp] theorem ledger_leaveScene : ctx.leaveScene.ledger = ctx.ledger := rfl

theorem ledger_registerTag (raw : String) :
    (ctx.registerTag raw).1.ledger = ctx.ledger.enter (.tag (Text.trim raw)) := rfl

theorem ledger_registerLayer (raw subject : String) :
    (ctx.registerLayer raw subject).1.ledger = ctx.ledger.enter (.layer (Text.trim raw)) := by
  have layers := ctx.layers_registerLayer raw subject
  simp only [Context.layers, registerLayer] at layers
  simp only [registerLayer, ledger, Ledger.enter]
  generalize ctx.tables.layers.register (Text.trim raw) = result at layers ⊢
  obtain ⟨slot, filled⟩ := result
  cases slot with
  | some slot => rfl
  | none =>
      dsimp only [record] at layers ⊢
      rw [← layers]

/-- What the name of a sorting layer enters; a blank one stands for the usual sorting layer. -/
def sortingEntries (raw : String) : List Entry :=
  if Text.trim raw = "" then [] else [.sortingLayer (Text.trim raw)]

theorem ledger_registerSortingLayer (raw : String) :
    (ctx.registerSortingLayer raw).1.ledger = ctx.ledger.enterAll (sortingEntries raw) := by
  by_cases blank : Text.trim raw = ""
  · simp only [registerSortingLayer, sortingEntries, if_pos blank]
    rfl
  · simp only [registerSortingLayer, sortingEntries, if_neg blank]
    rfl

@[simp] theorem ledger_readColor (raw : Option String) (subject field : String) :
    (ctx.readColor raw subject field).1.ledger = ctx.ledger := by
  simp only [readColor]
  split
  · rfl
  · split <;> rfl

@[simp] theorem ledger_importAsset (raw subject field : String) :
    (ctx.importAsset raw subject field).1.ledger = ctx.ledger := by
  simp only [importAsset]
  split <;> rfl

end Context

open Context

/-- That two contexts import the same assets, now and later on. -/
structure Alike (c d : Context) : Prop where
  imports : c.imports = d.imports
  pixelsPerUnit : c.pixelsPerUnit = d.pixelsPerUnit
  finds : c.assets.FindsAs d.assets

theorem Alike.mono {c later d other : Context} (alike : Alike c d) (left : later.core = c.core)
    (right : other.core = d.core) : Alike later other where
  imports := by
    rw [show later.imports = c.imports from congrArg Core.imports left,
      show other.imports = d.imports from congrArg Core.imports right]
    exact alike.imports
  pixelsPerUnit := by
    rw [show later.pixelsPerUnit = c.pixelsPerUnit from congrArg Core.pixelsPerUnit left,
      show other.pixelsPerUnit = d.pixelsPerUnit from congrArg Core.pixelsPerUnit right]
    exact alike.pixelsPerUnit
  finds := by
    rw [show later.assets = c.assets from congrArg Core.assets left,
      show other.assets = d.assets from congrArg Core.assets right]
    exact alike.finds

/-- Contexts that are alike import the same asset and stay alike. -/
theorem Alike.importAsset {c d : Context} (alike : Alike c d) (raw subject field : String) :
    (c.importAsset raw subject field).2 = (d.importAsset raw subject field).2 ∧
      Alike (c.importAsset raw subject field).1 (d.importAsset raw subject field).1 := by
  obtain ⟨results, caches⟩ := ImportCache.importAsset_of_findsAs alike.finds d.imports raw
  simp only [Context.importAsset]
  rw [alike.imports]
  generalize d.imports.importAsset c.assets raw = first at results caches ⊢
  generalize d.imports.importAsset d.assets raw = second at results caches ⊢
  obtain ⟨left, cache, asked⟩ := first
  obtain ⟨right, others, tried⟩ := second
  dsimp only at results caches
  subst caches
  cases left with
  | error fault =>
      cases right with
      | error cause => exact ⟨rfl, rfl, alike.pixelsPerUnit, alike.finds⟩
      | ok asset => cases results
  | ok asset =>
      cases right with
      | error cause => cases results
      | ok found =>
          cases results
          exact ⟨rfl, rfl, alike.pixelsPerUnit, alike.finds⟩

/-- That two runs went on by entering the same names, each into its own tables, and that they are
alike afterwards. -/
structure Together (c later d other : Context) : Prop where
  alike : Alike later other
  entries : ∃ entries,
    later.ledger = c.ledger.enterAll entries ∧ other.ledger = d.ledger.enterAll entries

namespace Together

variable {c later last d other final : Context}

theorem idle (alike : Alike later other) (left : later.ledger = c.ledger)
    (right : other.ledger = d.ledger) : Together c later d other := ⟨alike, [], left, right⟩

theorem trans (first : Together c later d other) (second : Together later last other final) :
    Together c last d final := by
  obtain ⟨-, entries, left, right⟩ := first
  obtain ⟨alike, others, leftLast, rightLast⟩ := second
  refine ⟨alike, entries ++ others, ?_, ?_⟩
  · rw [leftLast, left, Ledger.enterAll_append]
  · rw [rightLast, right, Ledger.enterAll_append]

/-- What is recorded afterwards changes nothing. -/
theorem recordAll (run : Together c later d other) (faults others : List Diagnostic) :
    Together c (later.recordAll faults) d (other.recordAll others) :=
  ⟨run.alike.mono rfl rfl, run.entries⟩

/-- A context that holds all that the other run came to stays as it is. -/
theorem settled (run : Together c later d other) {entries : List Entry}
    (reached : d.tables = (later.ledger.enterAll entries).tables) :
    other.ledger = d.ledger := by
  obtain ⟨-, own, left, right⟩ := run
  rw [right]
  apply Ledger.enterAll_of_absorbs
  intro entry member
  show d.tables.Absorbs entry
  rw [reached, left]
  exact Ledger.absorbs_enterAll_others (Ledger.absorbs_enterAll c.ledger member) entries

end Together

/-! ## Objects -/

theorem ledger_findParent (ctx : Context) (graph : Graph) (spec : Object) (name : String) :
    (findParent ctx graph spec name).1.ledger = ctx.ledger := by
  simp only [findParent]
  split
  · rfl
  · split <;> rfl

def tagEntries (raw : Option String) : List Entry :=
  ((nonBlank? raw).map fun tag => Entry.tag (Text.trim tag)).toList

theorem ledger_registerTag? (ctx : Context) (raw : Option String) :
    (registerTag? ctx raw).1.ledger = ctx.ledger.enterAll (tagEntries raw) := by
  simp only [registerTag?, tagEntries]
  cases nonBlank? raw <;> rfl

theorem ledger_registerLayer? (ctx : Context) (raw : Option String) (subject : String) :
    (registerLayer? ctx raw subject).1.ledger =
      ctx.ledger.enterAll ((layerNames raw).map Entry.layer) := by
  simp only [registerLayer?, layerNames]
  cases nonBlank? raw with
  | none => rfl
  | some layer => exact ctx.ledger_registerLayer layer subject

/-- What a picture enters when its asset is imported. -/
def pictureEntries (sprite : Sprite) : Option ImportedAsset → List Entry
  | none => []
  | some _ => sortingEntries (sprite.sortingLayer.getD "")

theorem ledger_buildVisual_of_path (ctx : Context) {sprite : Sprite} (subject : String)
    {path : String} (given : nonBlank? sprite.path = some path) :
    (buildVisual ctx sprite subject).1.ledger =
      ctx.ledger.enterAll
        (pictureEntries sprite (ctx.importAsset path subject "sprite.path").2) := by
  have opens := ctx.ledger_importAsset path subject "sprite.path"
  simp only [buildVisual, given]
  split
  next imported =>
    rw [imported] at opens ⊢
    exact opens
  next opened asset imported =>
    rw [imported] at opens ⊢
    dsimp only at opens
    have sorted := ledger_registerSortingLayer
      (opened.readColor sprite.color subject "sprite.color").1 (sprite.sortingLayer.getD "")
    rw [ledger_readColor, opens] at sorted
    exact sorted

section

variable {c d : Context}

theorem together_buildVisual? (alike : Alike c d) (sprite : Option Sprite) (subject : String) :
    Together c (buildVisual? c sprite subject).1 d (buildVisual? d sprite subject).1 := by
  cases sprite with
  | none => exact .idle alike rfl rfl
  | some sprite =>
      simp only [buildVisual?]
      cases given : nonBlank? sprite.path with
      | none =>
          rw [buildVisual_of_no_path c subject given, buildVisual_of_no_path d subject given]
          exact .idle alike rfl rfl
      | some path =>
          obtain ⟨assets, opened⟩ := alike.importAsset path subject "sprite.path"
          refine ⟨opened.mono (buildVisual_of_path c subject given).1
            (buildVisual_of_path d subject given).1, _, ledger_buildVisual_of_path c subject given, ?_⟩
          rw [assets]
          exact ledger_buildVisual_of_path d subject given

theorem ledger_taggedContext (ctx : Context) (graph : Graph) (spec : Object) :
    (taggedContext ctx graph spec).ledger = ctx.ledger.enterAll (tagEntries spec.tag) := by
  rw [taggedContext, ledger_registerTag?, ledger_findParent]

theorem ledger_layeredContext (ctx : Context) (graph : Graph) (spec : Object) :
    (layeredContext ctx graph spec).ledger = ctx.ledger.enterAll
      (tagEntries spec.tag ++ (layerNames spec.layer).map Entry.layer) := by
  rw [layeredContext, ledger_registerLayer?, ledger_taggedContext, Ledger.enterAll_append]

theorem together_buildEntity (alike : Alike c d) (g h : Graph) (spec : Object) :
    Together c (buildEntity c g spec).1 d (buildEntity d h spec).1 := by
  obtain ⟨first, left⟩ := buildEntity_context c g spec
  obtain ⟨second, right⟩ := buildEntity_context d h spec
  have layered : Together c (layeredContext c g spec) d (layeredContext d h spec) :=
    ⟨alike.mono (core_layeredContext c g spec) (core_layeredContext d h spec), _,
      ledger_layeredContext c g spec, ledger_layeredContext d h spec⟩
  rw [left, right]
  exact (layered.trans (together_buildVisual? layered.alike spec.sprite _)).recordAll first second

theorem together_placeEntities (alike : Alike c d) (g h : Graph) (specs : List Object) :
    Together c (placeEntities c g specs).1 d (placeEntities d h specs).1 := by
  induction specs generalizing c d g h with
  | nil => exact .idle alike rfl rfl
  | cons spec rest ih =>
      simp only [placeEntities]
      have first := together_buildEntity alike g h spec
      exact first.trans (ih first.alike _ _)

/-! ## Tilemaps -/

theorem ledger_paintTilemap (ctx : Context) (graph : Graph) (grid : Option EntityId)
    (spec : Tilemap) (name : String) (asset : ImportedAsset) (sliced : SlicedAtlas) :
    (paintTilemap ctx graph grid spec name asset sliced).context.ledger =
      ctx.ledger.enterAll (sortingEntries (spec.sortingLayer.getD "")) := by
  simp only [paintTilemap]
  rw [ledger_registerSortingLayer, ledger_recordAll]

theorem together_buildTilemap (alike : Alike c d) (g h : Graph)
    (left right : Option EntityId) (spec : Tilemap) (index : Nat) (tilesets : List Tileset) :
    Together c (buildTilemap c g left spec index tilesets).context d
      (buildTilemap d h right spec index tilesets).context := by
  simp only [buildTilemap]
  cases tilesets.find? (·.name == spec.tileset) with
  | none => exact .idle (alike.mono rfl rfl) rfl rfl
  | some tileset =>
      dsimp only
      obtain ⟨assets, opens⟩ :=
        alike.importAsset tileset.image (layerName spec index) "tileset.image"
      have first := c.ledger_importAsset tileset.image (layerName spec index) "tileset.image"
      have second := d.ledger_importAsset tileset.image (layerName spec index) "tileset.image"
      generalize c.importAsset tileset.image (layerName spec index) "tileset.image" = opened
        at assets opens first ⊢
      generalize d.importAsset tileset.image (layerName spec index) "tileset.image" = reopened
        at assets opens second ⊢
      obtain ⟨opened, asset⟩ := opened
      obtain ⟨reopened, again⟩ := reopened
      dsimp only at assets opens first second
      subst assets
      cases asset with
      | none => exact .idle opens first second
      | some asset =>
          dsimp only
          rw [opens.pixelsPerUnit]
          cases Tiles.sliceAtlas tileset asset.pixelSize reopened.pixelsPerUnit with
          | error fault => exact .idle (opens.mono rfl rfl) first second
          | ok sliced =>
              refine ⟨opens.mono (paintTilemap_context opened g left spec _ asset sliced).1
                (paintTilemap_context reopened h right spec _ asset sliced).1,
                sortingEntries (spec.sortingLayer.getD ""), ?_, ?_⟩
              · exact (ledger_paintTilemap ..).trans (by rw [first])
              · exact (ledger_paintTilemap ..).trans (by rw [second])

theorem together_buildTilemaps (tilesets : List Tileset) (alike : Alike c d) (g h : Graph)
    (left right : Option EntityId) (index : Nat) (specs : List Tilemap) :
    Together c (buildTilemaps tilesets c g left index specs).1 d
      (buildTilemaps tilesets d h right index specs).1 := by
  induction specs generalizing c d g h left right index with
  | nil => exact .idle alike rfl rfl
  | cons spec rest ih =>
      simp only [buildTilemaps]
      have first := together_buildTilemap alike g h left right spec index tilesets
      exact first.trans (ih first.alike _ _ _ _ (index + 1))

/-! ## Elements of the user interface -/

theorem together_importSprite (alike : Alike c d) (sprite : Option String) (subject : String) :
    Together c (importSprite c sprite subject).1 d (importSprite d sprite subject).1 := by
  simp only [importSprite]
  cases nonBlank? sprite with
  | none => exact .idle alike rfl rfl
  | some path =>
      exact .idle (alike.importAsset path subject "sprite").2
        (c.ledger_importAsset path subject "sprite") (d.ledger_importAsset path subject "sprite")

theorem together_buildUiElement (alike : Alike c d) (g h : Graph) (canvas root : EntityId)
    (spec : Element) (action other : Option ButtonAction) :
    Together c (buildUiElement c g canvas spec action).1 d
      (buildUiElement d h root spec other).1 := by
  obtain ⟨first, left⟩ := buildUiElement_context c g canvas spec action
  obtain ⟨second, right⟩ := buildUiElement_context d h root spec other
  have colored : Together c (c.readColor spec.color (Text.trim spec.displayName) "color").1 d
      (d.readColor spec.color (Text.trim spec.displayName) "color").1 :=
    .idle (alike.mono (c.core_readColor _ _ _) (d.core_readColor _ _ _))
      (c.ledger_readColor _ _ _) (d.ledger_readColor _ _ _)
  rw [left, right]
  exact (colored.trans (together_importSprite colored.alike spec.sprite _)).recordAll first second

theorem together_buildElements (alike : Alike c d) (g h : Graph) (canvas root : EntityId)
    (specs : List Element) (actions others : List (Option ButtonAction)) :
    Together c (buildElements canvas c g specs actions).1 d
      (buildElements root d h specs others).1 := by
  induction specs generalizing c d g h actions others with
  | nil => exact .idle alike rfl rfl
  | cons spec rest ih =>
      simp only [buildElements]
      have first := together_buildUiElement alike g h canvas root spec (actions.head?.bind id)
        (others.head?.bind id)
      exact first.trans (ih first.alike _ _ _ _)

/-! ## Scenes -/

theorem ledger_backgroundStep (ctx : Context) (scene : Document.Scene) :
    (backgroundStep ctx scene).1.ledger = ctx.ledger := by
  simp only [backgroundStep, readBackground]
  split
  · rfl
  · split <;> rfl

/-- Where the same images are found, a scene enters the same names into any tables. -/
theorem together_compileScene (alike : Alike c d) (scene : Document.Scene)
    (gameTilesets : List Tileset) (actions others : List (Option ButtonAction))
    (provenance : Provenance) :
    Together c (compileScene c scene gameTilesets actions provenance).1 d
      (compileScene d scene gameTilesets others provenance).1 := by
  have begun : Together c (backgroundStep c scene).1 d (backgroundStep d scene).1 :=
    .idle (alike.mono (core_backgroundStep c scene) (core_backgroundStep d scene))
      (ledger_backgroundStep c scene) (ledger_backgroundStep d scene)
  have placed : Together c (entityStep c scene).1 d (entityStep d scene).1 :=
    begun.trans (together_placeEntities begun.alike _ _ scene.gameObjects)
  have tiled : Together c (tilemapStep c scene gameTilesets).1 d
      (tilemapStep d scene gameTilesets).1 :=
    placed.trans (together_buildTilemaps _ placed.alike _ _ none none 0 scene.tilemaps)
  have whole : Together c (elementStep c scene gameTilesets actions).1 d
      (elementStep d scene gameTilesets others).1 :=
    tiled.trans (together_buildElements tiled.alike _ _ _ _ scene.ui actions others)
  rw [compileScene_steps, compileScene_steps]
  exact ⟨whole.alike.mono rfl rfl, whole.entries⟩

end

/-! ## Games -/

theorem ledger_prepareElements (names : List String) (ctx : Context) (elements : List Element) :
    (prepareElements names ctx elements).1.ledger = ctx.ledger := by
  induction elements generalizing ctx with
  | nil => rfl
  | cons element rest ih =>
      have first : (prepareAction names ctx element).1.ledger = ctx.ledger := by
        simp only [prepareAction]
        split
        · rfl
        · split <;> rfl
      simp only [prepareElements]
      rw [ih, first]

theorem ledger_prepareScenes (names : List String) (ctx : Context) (entries : List SceneEntry) :
    (prepareScenes names ctx entries).1.ledger = ctx.ledger := by
  induction entries generalizing ctx with
  | nil => rfl
  | cons entry rest ih =>
      cases entry with
      | malformed fault =>
          simp only [prepareScenes]
          exact ih ctx
      | parsed scene =>
          simp only [prepareScenes]
          rw [ih, ledger_leaveScene, ledger_prepareElements, ledger_enterScene]

/-- What the settings of a document enter. -/
def settingsEntries (settings : Settings) : List Entry :=
  (named settings.tags).map (fun tag => .tag (Text.trim tag)) ++
    (named settings.layers).map (fun layer => .layer (Text.trim layer)) ++
      (named settings.sortingLayers).flatMap sortingEntries

theorem ledger_foldl (enter : Context → String → Context) (entries : String → List Entry)
    (enters : ∀ ctx name, (enter ctx name).ledger = ctx.ledger.enterAll (entries name))
    (names : List String) (ctx : Context) :
    (names.foldl enter ctx).ledger = ctx.ledger.enterAll (names.flatMap entries) := by
  induction names generalizing ctx with
  | nil => rfl
  | cons name rest ih =>
      rw [List.foldl_cons, ih, enters, List.flatMap_cons, Ledger.enterAll_append]

theorem ledger_applySettings (ctx : Context) (settings : Settings) :
    (ctx.applySettings settings).ledger = ctx.ledger.enterAll (settingsEntries settings) := by
  have tags := ledger_foldl (fun c tag => (c.registerTag tag).1)
    (fun tag => [.tag (Text.trim tag)]) (fun c tag => c.ledger_registerTag tag)
    (named settings.tags)
  have layers := ledger_foldl (fun c layer => (c.registerLayer layer "settings").1)
    (fun layer => [.layer (Text.trim layer)]) (fun c layer => c.ledger_registerLayer layer _)
    (named settings.layers)
  have sorting := ledger_foldl (fun c name => (c.registerSortingLayer name).1) sortingEntries
    (fun c name => c.ledger_registerSortingLayer name) (named settings.sortingLayers)
  simp only [applySettings]
  rw [sorting, layers, tags, settingsEntries, Ledger.enterAll_append, Ledger.enterAll_append,
    List.map_eq_flatMap, List.map_eq_flatMap]
  rfl

theorem ledger_prepare (options : Options) (assets : AssetStore) (tables : Tables) (draws : Draws)
    (game : Game) :
    (prepare options assets tables draws game).1.ledger =
      (Ledger.mk tables draws).enterAll (settingsEntries game.settings) := by
  simp only [prepare, prepareActions]
  rw [ledger_prepareScenes, ledger_recordAll, ledger_applySettings]
  rfl

end GameScenes.Build
