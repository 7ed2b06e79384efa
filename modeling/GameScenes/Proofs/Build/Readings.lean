import GameScenes.Build.Scene
import GameScenes.Proofs.Project.Layers

/-!
# What building reads

Building scenes reads two things of its context: a core that only the import of assets changes,
and the layers.  So what is built from two contexts is the same where both are the same, the core
goes on in the same way whatever the layers are, and the layers are those that the document names,
registered in order.
-/

set_option autoImplicit false

namespace GameScenes.Build

open Behavior (CommandTable Index)
open Document (Element Object Sprite Tilemap Tileset)
open Scene (Artifact ButtonAction Graph Visual)
open Tiles (SlicedAtlas)

/-- What building reads of a context besides the layers. -/
structure Core where
  imports : ImportCache
  asked : List AssetCandidate
  behaviors : Index
  commands : CommandTable
  pixelsPerUnit : Float32
  assets : AssetStore

namespace Context

def core (ctx : Context) : Core :=
  ⟨ctx.imports, ctx.asked, ctx.behaviors, ctx.commands, ctx.pixelsPerUnit, ctx.assets⟩

def layers (ctx : Context) : LayerTable := ctx.tables.layers

variable (ctx : Context)

@[simp] theorem core_record (d : Diagnostic) : (ctx.record d).core = ctx.core := rfl

@[simp] theorem layers_record (d : Diagnostic) : (ctx.record d).layers = ctx.layers := rfl

@[simp] theorem core_recordAll (ds : List Diagnostic) : (ctx.recordAll ds).core = ctx.core := rfl

@[simp] theorem layers_recordAll (ds : List Diagnostic) :
    (ctx.recordAll ds).layers = ctx.layers := rfl

@[simp] theorem core_enterScene (scene : String) : (ctx.enterScene scene).core = ctx.core := rfl

@[simp] theorem layers_enterScene (scene : String) :
    (ctx.enterScene scene).layers = ctx.layers := rfl

@[simp] theorem core_leaveScene : ctx.leaveScene.core = ctx.core := rfl

@[simp] theorem layers_leaveScene : ctx.leaveScene.layers = ctx.layers := rfl

/-! ## Tables -/

@[simp] theorem core_registerTag (raw : String) : (ctx.registerTag raw).1.core = ctx.core := rfl

@[simp] theorem layers_registerTag (raw : String) :
    (ctx.registerTag raw).1.layers = ctx.layers := rfl

@[simp] theorem core_registerLayer (raw subject : String) :
    (ctx.registerLayer raw subject).1.core = ctx.core := by
  unfold registerLayer
  dsimp only
  split <;> rfl

@[simp] theorem layers_registerLayer (raw subject : String) :
    (ctx.registerLayer raw subject).1.layers = (ctx.layers.register (Text.trim raw)).2 := by
  unfold registerLayer layers
  dsimp only
  generalize found : ctx.tables.layers.register (Text.trim raw) = result
  obtain ⟨slot, filled⟩ := result
  cases slot with
  | some slot => rfl
  | none =>
      -- a layer without a slot leaves the table as it is
      unfold LayerTable.register at found
      split at found
      · simp at found
      · split at found
        · simp at found
        · cases found
          rfl

theorem registerLayer_slot (raw subject : String) :
    (ctx.registerLayer raw subject).2 =
      (ctx.layers.register (Text.trim raw)).1.map (·.1) := by
  unfold registerLayer layers
  dsimp only
  generalize ctx.tables.layers.register (Text.trim raw) = result
  obtain ⟨slot, filled⟩ := result
  cases slot <;> rfl

@[simp] theorem core_registerSortingLayer (raw : String) :
    (ctx.registerSortingLayer raw).1.core = ctx.core := by
  unfold registerSortingLayer
  dsimp only
  split <;> rfl

@[simp] theorem layers_registerSortingLayer (raw : String) :
    (ctx.registerSortingLayer raw).1.layers = ctx.layers := by
  unfold registerSortingLayer
  dsimp only
  split <;> rfl

theorem log_registerSortingLayer (raw : String) :
    (ctx.registerSortingLayer raw).1.log = ctx.log := by
  unfold registerSortingLayer
  dsimp only
  split <;> rfl

/-- The sorting layer that a text names. -/
def sortingLayerOf (raw : String) : String :=
  if Text.trim raw = "" then SortingLayerTable.usualName else Text.trim raw

theorem registerSortingLayer_name (raw : String) :
    (ctx.registerSortingLayer raw).2 = sortingLayerOf raw := by
  unfold registerSortingLayer sortingLayerOf
  dsimp only
  split <;> rfl

theorem registerSortingLayer_pair (raw : String) :
    ctx.registerSortingLayer raw = ((ctx.registerSortingLayer raw).1, sortingLayerOf raw) := by
  rw [← ctx.registerSortingLayer_name raw]

/-! ## Colors -/

@[simp] theorem core_readColor (raw : Option String) (subject field : String) :
    (ctx.readColor raw subject field).1.core = ctx.core := by
  unfold readColor
  cases raw with
  | none => rfl
  | some s =>
      dsimp only
      split <;> rfl

@[simp] theorem layers_readColor (raw : Option String) (subject field : String) :
    (ctx.readColor raw subject field).1.layers = ctx.layers := by
  unfold readColor
  cases raw with
  | none => rfl
  | some s =>
      dsimp only
      split <;> rfl

def colorOf (raw : Option String) : Color := (raw.bind Color.ofText?).getD Color.white

theorem readColor_color (raw : Option String) (subject field : String) :
    (ctx.readColor raw subject field).2 = colorOf raw := by
  unfold readColor colorOf
  cases raw with
  | none => rfl
  | some s =>
      dsimp only [Option.bind_some]
      cases Color.ofText? s <;> rfl

/-! ## Assets -/

@[simp] theorem layers_importAsset (raw subject field : String) :
    (ctx.importAsset raw subject field).1.layers = ctx.layers := by
  unfold importAsset
  dsimp only
  split <;> rfl

/-- Importing from contexts of one core gives the same asset and contexts of one core. -/
theorem importAsset_congr {c d : Context} (same : c.core = d.core)
    (raw subject field : String) :
    (c.importAsset raw subject field).1.core = (d.importAsset raw subject field).1.core ∧
      (c.importAsset raw subject field).2 = (d.importAsset raw subject field).2 := by
  have imports : c.imports = d.imports := congrArg Core.imports same
  have asked : c.asked = d.asked := congrArg Core.asked same
  have behaviors : c.behaviors = d.behaviors := congrArg Core.behaviors same
  have commands : c.commands = d.commands := congrArg Core.commands same
  have pixelsPerUnit : c.pixelsPerUnit = d.pixelsPerUnit := congrArg Core.pixelsPerUnit same
  have assets : c.assets = d.assets := congrArg Core.assets same
  unfold importAsset
  rw [imports, assets, asked]
  generalize d.imports.importAsset d.assets raw = step
  obtain ⟨result, cache, candidates⟩ := step
  cases result <;> simp [core, record, behaviors, commands, pixelsPerUnit]

end Context

open Context

/-! ## Entities -/

variable {c d : Context}

theorem core_findParent (ctx : Context) (graph : Graph) (spec : Object) (name : String) :
    (findParent ctx graph spec name).1.core = ctx.core := by
  unfold findParent
  split
  · rfl
  · split <;> rfl

theorem layers_findParent (ctx : Context) (graph : Graph) (spec : Object) (name : String) :
    (findParent ctx graph spec name).1.layers = ctx.layers := by
  unfold findParent
  split
  · rfl
  · split <;> rfl

theorem findParent_parent (c d : Context) (graph : Graph) (spec : Object) (name : String) :
    (findParent c graph spec name).2 = (findParent d graph spec name).2 := by
  unfold findParent
  split
  · rfl
  · split <;> rfl

theorem core_registerTag? (ctx : Context) (raw : Option String) :
    (registerTag? ctx raw).1.core = ctx.core := by
  unfold registerTag?
  split <;> rfl

theorem layers_registerTag? (ctx : Context) (raw : Option String) :
    (registerTag? ctx raw).1.layers = ctx.layers := by
  unfold registerTag?
  split <;> rfl

theorem registerTag?_tag (c d : Context) (raw : Option String) :
    (registerTag? c raw).2 = (registerTag? d raw).2 := by
  unfold registerTag?
  split <;> rfl

theorem core_registerLayer? (ctx : Context) (raw : Option String) (subject : String) :
    (registerLayer? ctx raw subject).1.core = ctx.core := by
  unfold registerLayer?
  split
  · rfl
  · exact ctx.core_registerLayer _ subject

def layerNames (raw : Option String) : List String := ((nonBlank? raw).map Text.trim).toList

theorem layers_registerLayer? (ctx : Context) (raw : Option String) (subject : String) :
    (registerLayer? ctx raw subject).1.layers = ctx.layers.registerAll (layerNames raw) := by
  unfold registerLayer? layerNames
  cases nonBlank? raw with
  | none => rfl
  | some layer => exact ctx.layers_registerLayer layer subject

theorem registerLayer?_slot (same : c.layers = d.layers) (raw : Option String)
    (subject : String) : (registerLayer? c raw subject).2 = (registerLayer? d raw subject).2 := by
  unfold registerLayer?
  cases nonBlank? raw with
  | none => rfl
  | some layer =>
      dsimp only
      rw [registerLayer_slot, registerLayer_slot, same]

/-- The picture that an imported asset gives an object. -/
def pictureOf (sprite : Sprite) (usualPixelsPerUnit : Float32) (asset : ImportedAsset) : Visual :=
  let pixelsPerUnit :=
    (sprite.pixelsPerUnit.filter Geometry.isPositive).getD usualPixelsPerUnit
  { assetPath := asset.canonicalPath
    pixelSize := asset.pixelSize
    pixelsPerUnit
    sortingLayer := sortingLayerOf (sprite.sortingLayer.getD "")
    orderInLayer := sprite.orderInLayer
    color := colorOf sprite.color
    localBounds := Bounds.ofCenterSize Vector2.zero
      ⟨asset.pixelSize.1.toFloat32 / pixelsPerUnit,
        asset.pixelSize.2.toFloat32 / pixelsPerUnit⟩ }

theorem buildVisual_of_no_path (ctx : Context) {sprite : Sprite} (subject : String)
    (missing : nonBlank? sprite.path = none) : buildVisual ctx sprite subject = (ctx, none) := by
  unfold buildVisual
  rw [missing]

/-- All that building a picture does is to import its asset. -/
theorem buildVisual_of_path (ctx : Context) {sprite : Sprite} (subject : String) {path : String}
    (given : nonBlank? sprite.path = some path) :
    (buildVisual ctx sprite subject).1.core =
        (ctx.importAsset path subject "sprite.path").1.core ∧
      (buildVisual ctx sprite subject).1.layers = ctx.layers ∧
      (buildVisual ctx sprite subject).2 =
        (ctx.importAsset path subject "sprite.path").2.map
          (pictureOf sprite (ctx.importAsset path subject "sprite.path").1.pixelsPerUnit) := by
  have stays := ctx.layers_importAsset path subject "sprite.path"
  unfold buildVisual
  split
  next missing =>
    rw [missing] at given
    simp at given
  next found there =>
    rw [there, Option.some.injEq] at given
    subst given
    split
    next imported =>
      rw [imported] at stays ⊢
      exact ⟨rfl, stays, rfl⟩
    next opened asset imported =>
      have color := opened.readColor_color sprite.color subject "sprite.color"
      have colored := opened.core_readColor sprite.color subject "sprite.color"
      have kept := opened.layers_readColor sprite.color subject "sprite.color"
      split
      next painted shade read =>
        have name := painted.registerSortingLayer_name (sprite.sortingLayer.getD "")
        have sorted := painted.core_registerSortingLayer (sprite.sortingLayer.getD "")
        have held := painted.layers_registerSortingLayer (sprite.sortingLayer.getD "")
        split
        next last layer registered =>
          rw [read] at color colored kept
          rw [registered] at name sorted held
          rw [imported] at stays ⊢
          dsimp only at color colored kept name sorted held stays
          subst color name
          exact ⟨sorted.trans colored, held.trans (kept.trans stays), rfl⟩

theorem layers_buildVisual (ctx : Context) (sprite : Sprite) (subject : String) :
    (buildVisual ctx sprite subject).1.layers = ctx.layers := by
  cases given : nonBlank? sprite.path with
  | none => rw [buildVisual_of_no_path ctx subject given]
  | some path => exact (buildVisual_of_path ctx subject given).2.1

theorem buildVisual_congr (same : c.core = d.core) (sprite : Sprite) (subject : String) :
    (buildVisual c sprite subject).1.core = (buildVisual d sprite subject).1.core ∧
      (buildVisual c sprite subject).2 = (buildVisual d sprite subject).2 := by
  cases given : nonBlank? sprite.path with
  | none =>
      rw [buildVisual_of_no_path c subject given, buildVisual_of_no_path d subject given]
      exact ⟨same, rfl⟩
  | some path =>
      obtain ⟨leftCore, -, left⟩ := buildVisual_of_path c subject given
      obtain ⟨rightCore, -, right⟩ := buildVisual_of_path d subject given
      obtain ⟨cores, assets⟩ := importAsset_congr same path subject "sprite.path"
      have units := congrArg Core.pixelsPerUnit cores
      refine ⟨leftCore.trans (cores.trans rightCore.symm), ?_⟩
      rw [left, right, assets]
      exact congrArg (fun usual => Option.map (pictureOf sprite usual) _) units

theorem layers_buildVisual? (ctx : Context) (sprite : Option Sprite) (subject : String) :
    (buildVisual? ctx sprite subject).1.layers = ctx.layers := by
  cases sprite with
  | none => rfl
  | some sprite => exact layers_buildVisual ctx sprite subject

theorem buildVisual?_congr (same : c.core = d.core) (sprite : Option Sprite)
    (subject : String) :
    (buildVisual? c sprite subject).1.core = (buildVisual? d sprite subject).1.core ∧
      (buildVisual? c sprite subject).2 = (buildVisual? d sprite subject).2 := by
  cases sprite with
  | none => exact ⟨same, rfl⟩
  | some sprite => exact buildVisual_congr same sprite subject

def placeEntity (behaviors : Index) (layers : LayerTable) (graph : Graph) (spec : Object)
    (parent : Option EntityId) (tag : Option String) (layer : Option Nat)
    (visual : Option Visual) : Graph × EntityId :=
  let spawned := graph.spawn (Text.trim spec.displayName) parent
  let filled := spawned.1.modify spawned.2 fun e =>
    { e with
      sourceId := (nonBlank? spec.id).map Text.trim
      transform := buildTransform spec.transform
      tag := tag.getD e.tag
      layer := layer.getD e.layer
      components := { e.components with
        visual
        body := (spec.physics.bind (·.rigidbody)).map buildBody
        colliders := (spec.physics.map fun p => p.allColliders.map (buildCollider visual)).getD
          [] } }
  ((Behavior.attach behaviors layers filled spawned.2 spec.scripts).1, spawned.2)

/-- The context after the tag of an object. -/
def taggedContext (ctx : Context) (graph : Graph) (spec : Object) : Context :=
  (registerTag? (findParent ctx graph spec (Text.trim spec.displayName)).1 spec.tag).1

/-- The context after the layer of an object. -/
def layeredContext (ctx : Context) (graph : Graph) (spec : Object) : Context :=
  (registerLayer? (taggedContext ctx graph spec) spec.layer (Text.trim spec.displayName)).1

/-- The context in which the behaviors of an object are attached. -/
def entityContext (ctx : Context) (graph : Graph) (spec : Object) : Context :=
  (buildVisual? (layeredContext ctx graph spec) spec.sprite (Text.trim spec.displayName)).1

theorem buildEntity_context (ctx : Context) (graph : Graph) (spec : Object) :
    ∃ faults, (buildEntity ctx graph spec).1 = (entityContext ctx graph spec).recordAll faults :=
  ⟨_, rfl⟩

theorem buildEntity_placed (ctx : Context) (graph : Graph) (spec : Object) :
    (buildEntity ctx graph spec).2 =
      placeEntity (entityContext ctx graph spec).behaviors (entityContext ctx graph spec).layers
        graph spec (findParent ctx graph spec (Text.trim spec.displayName)).2
        (registerTag? (findParent ctx graph spec (Text.trim spec.displayName)).1 spec.tag).2
        (registerLayer? (taggedContext ctx graph spec) spec.layer (Text.trim spec.displayName)).2
        (buildVisual? (layeredContext ctx graph spec) spec.sprite
          (Text.trim spec.displayName)).2 := rfl

theorem core_taggedContext (ctx : Context) (graph : Graph) (spec : Object) :
    (taggedContext ctx graph spec).core = ctx.core := by
  rw [taggedContext, core_registerTag?, core_findParent]

theorem layers_taggedContext (ctx : Context) (graph : Graph) (spec : Object) :
    (taggedContext ctx graph spec).layers = ctx.layers := by
  rw [taggedContext, layers_registerTag?, layers_findParent]

theorem core_layeredContext (ctx : Context) (graph : Graph) (spec : Object) :
    (layeredContext ctx graph spec).core = ctx.core := by
  rw [layeredContext, core_registerLayer?, core_taggedContext]

theorem layers_layeredContext (ctx : Context) (graph : Graph) (spec : Object) :
    (layeredContext ctx graph spec).layers = ctx.layers.registerAll (layerNames spec.layer) := by
  rw [layeredContext, layers_registerLayer?, layers_taggedContext]

theorem layers_entityContext (ctx : Context) (graph : Graph) (spec : Object) :
    (entityContext ctx graph spec).layers = ctx.layers.registerAll (layerNames spec.layer) := by
  rw [entityContext, layers_buildVisual?, layers_layeredContext]

theorem entityContext_congr (same : c.core = d.core) (g h : Graph) (spec : Object) :
    (entityContext c g spec).core = (entityContext d h spec).core ∧
      (buildVisual? (layeredContext c g spec) spec.sprite (Text.trim spec.displayName)).2 =
        (buildVisual? (layeredContext d h spec) spec.sprite (Text.trim spec.displayName)).2 := by
  apply buildVisual?_congr
  rw [core_layeredContext, core_layeredContext]
  exact same

theorem core_buildEntity (same : c.core = d.core) (g h : Graph) (spec : Object) :
    (buildEntity c g spec).1.core = (buildEntity d h spec).1.core := by
  obtain ⟨first, left⟩ := buildEntity_context c g spec
  obtain ⟨second, right⟩ := buildEntity_context d h spec
  rw [left, right, core_recordAll, core_recordAll]
  exact (entityContext_congr same g h spec).1

theorem layers_buildEntity (ctx : Context) (graph : Graph) (spec : Object) :
    (buildEntity ctx graph spec).1.layers = ctx.layers.registerAll (layerNames spec.layer) := by
  obtain ⟨faults, whole⟩ := buildEntity_context ctx graph spec
  rw [whole, layers_recordAll, layers_entityContext]

theorem buildEntity_congr (same : c.core = d.core) (layers : c.layers = d.layers)
    (graph : Graph) (spec : Object) :
    (buildEntity c graph spec).2 = (buildEntity d graph spec).2 := by
  obtain ⟨cores, visuals⟩ := entityContext_congr same graph graph spec
  have behaviors := congrArg Core.behaviors cores
  have tables : (entityContext c graph spec).layers = (entityContext d graph spec).layers := by
    rw [layers_entityContext, layers_entityContext, layers]
  have parents := findParent_parent c d graph spec (Text.trim spec.displayName)
  have tags := registerTag?_tag (findParent c graph spec (Text.trim spec.displayName)).1
    (findParent d graph spec (Text.trim spec.displayName)).1 spec.tag
  have tagged : (taggedContext c graph spec).layers = (taggedContext d graph spec).layers := by
    rw [layers_taggedContext, layers_taggedContext, layers]
  have slots := registerLayer?_slot tagged spec.layer (Text.trim spec.displayName)
  rw [buildEntity_placed, buildEntity_placed, tables, parents, tags, slots, visuals]
  exact congrArg (fun index => placeEntity index _ _ _ _ _ _ _) behaviors

def layersOf (specs : List Object) : List String := specs.flatMap fun spec => layerNames spec.layer

theorem core_placeEntities (same : c.core = d.core) (g h : Graph) (specs : List Object) :
    (placeEntities c g specs).1.core = (placeEntities d h specs).1.core := by
  induction specs generalizing c d g h with
  | nil => exact same
  | cons spec rest ih =>
      unfold placeEntities
      exact ih (core_buildEntity same g h spec) _ _

theorem layers_placeEntities (ctx : Context) (graph : Graph) (specs : List Object) :
    (placeEntities ctx graph specs).1.layers = ctx.layers.registerAll (layersOf specs) := by
  induction specs generalizing ctx graph with
  | nil => rfl
  | cons spec rest ih =>
      unfold placeEntities
      rw [layersOf, List.flatMap_cons, LayerTable.registerAll_append, ← layers_buildEntity ctx graph]
      exact ih _ _

theorem placeEntities_congr (same : c.core = d.core) (layers : c.layers = d.layers)
    (graph : Graph) (specs : List Object) :
    (placeEntities c graph specs).2 = (placeEntities d graph specs).2 := by
  induction specs generalizing c d graph with
  | nil => rfl
  | cons spec rest ih =>
      have cores := core_buildEntity same graph graph spec
      have tables : (buildEntity c graph spec).1.layers = (buildEntity d graph spec).1.layers := by
        rw [layers_buildEntity, layers_buildEntity, layers]
      have built := buildEntity_congr same layers graph spec
      unfold placeEntities
      generalize buildEntity c graph spec = first at cores tables built ⊢
      generalize buildEntity d graph spec = second at cores tables built ⊢
      obtain ⟨left, graphs⟩ := first
      obtain ⟨right, others⟩ := second
      dsimp only at cores tables built
      subst built
      exact ih cores tables graphs.1

/-! ## Tilemaps -/

theorem paintTilemap_context (ctx : Context) (graph : Graph) (grid : Option EntityId)
    (spec : Tilemap) (name : String) (asset : ImportedAsset) (sliced : SlicedAtlas) :
    (paintTilemap ctx graph grid spec name asset sliced).context.core = ctx.core ∧
      (paintTilemap ctx graph grid spec name asset sliced).context.layers = ctx.layers := by
  unfold paintTilemap
  extract_lets atlas painted faulted cellSize
  have core := core_registerSortingLayer faulted (spec.sortingLayer.getD "")
  have layers := layers_registerSortingLayer faulted (spec.sortingLayer.getD "")
  generalize faulted.registerSortingLayer (spec.sortingLayer.getD "") = result at core layers ⊢
  obtain ⟨sorted, layer⟩ := result
  exact ⟨core, layers⟩

theorem paintTilemap_congr (c d : Context) (graph : Graph) (grid : Option EntityId)
    (spec : Tilemap) (name : String) (asset : ImportedAsset) (sliced : SlicedAtlas) :
    (paintTilemap c graph grid spec name asset sliced).graph =
        (paintTilemap d graph grid spec name asset sliced).graph ∧
      (paintTilemap c graph grid spec name asset sliced).grid =
        (paintTilemap d graph grid spec name asset sliced).grid := by
  unfold paintTilemap
  extract_lets atlas painted first cellSize second
  rw [registerSortingLayer_pair first, registerSortingLayer_pair second]
  exact ⟨rfl, rfl⟩

theorem layers_buildTilemap (ctx : Context) (graph : Graph) (grid : Option EntityId)
    (spec : Tilemap) (index : Nat) (tilesets : List Tileset) :
    (buildTilemap ctx graph grid spec index tilesets).context.layers = ctx.layers := by
  unfold buildTilemap
  extract_lets name
  split
  · rfl
  next tileset found =>
    have stays := ctx.layers_importAsset tileset.image name "tileset.image"
    split
    next opened imported => rwa [imported] at stays
    next opened asset imported =>
      rw [imported] at stays
      split
      · exact stays
      next sliced cut =>
        exact (paintTilemap_context opened graph grid spec name asset sliced).2.trans stays

/-- Over one core a tilemap leaves one core behind, and it makes one graph of one graph. -/
theorem buildTilemap_congr (same : c.core = d.core) (g h : Graph) (left right : Option EntityId)
    (spec : Tilemap) (index : Nat) (tilesets : List Tileset) :
    (buildTilemap c g left spec index tilesets).context.core =
        (buildTilemap d h right spec index tilesets).context.core ∧
      (g = h → left = right →
        (buildTilemap c g left spec index tilesets).graph =
            (buildTilemap d h right spec index tilesets).graph ∧
          (buildTilemap c g left spec index tilesets).grid =
            (buildTilemap d h right spec index tilesets).grid) := by
  unfold buildTilemap
  extract_lets name
  cases tilesets.find? (·.name == spec.tileset) with
  | none => exact ⟨same, fun graphs grids => ⟨graphs, grids⟩⟩
  | some tileset =>
      dsimp only
      obtain ⟨cores, assets⟩ := importAsset_congr same tileset.image name "tileset.image"
      generalize c.importAsset tileset.image name "tileset.image" = first at cores assets ⊢
      generalize d.importAsset tileset.image name "tileset.image" = second at cores assets ⊢
      obtain ⟨c, found⟩ := first
      obtain ⟨d, asset⟩ := second
      dsimp only at cores assets
      subst assets
      cases found with
      | none => exact ⟨cores, fun graphs grids => ⟨graphs, grids⟩⟩
      | some asset =>
          have units : c.pixelsPerUnit = d.pixelsPerUnit := congrArg Core.pixelsPerUnit cores
          dsimp only
          rw [units]
          cases Tiles.sliceAtlas tileset asset.pixelSize d.pixelsPerUnit with
          | error fault => exact ⟨cores, fun graphs grids => ⟨graphs, grids⟩⟩
          | ok sliced =>
              refine ⟨?_, ?_⟩
              · exact ((paintTilemap_context c g left spec name asset sliced).1.trans cores).trans
                  (paintTilemap_context d h right spec name asset sliced).1.symm
              · rintro rfl rfl
                exact paintTilemap_congr c d g left spec name asset sliced

theorem layers_buildTilemaps (tilesets : List Tileset) (ctx : Context) (graph : Graph)
    (grid : Option EntityId) (index : Nat) (specs : List Tilemap) :
    (buildTilemaps tilesets ctx graph grid index specs).1.layers = ctx.layers := by
  induction specs generalizing ctx graph grid index with
  | nil => rfl
  | cons spec rest ih =>
      unfold buildTilemaps
      rw [ih, layers_buildTilemap]

theorem buildTilemaps_congr (tilesets : List Tileset) (same : c.core = d.core) (g h : Graph)
    (left right : Option EntityId) (index : Nat) (specs : List Tilemap) :
    (buildTilemaps tilesets c g left index specs).1.core =
        (buildTilemaps tilesets d h right index specs).1.core ∧
      (g = h → left = right → (buildTilemaps tilesets c g left index specs).2 =
        (buildTilemaps tilesets d h right index specs).2) := by
  induction specs generalizing c d g h left right index with
  | nil => exact ⟨same, fun graphs _ => graphs⟩
  | cons spec rest ih =>
      unfold buildTilemaps
      obtain ⟨cores, built⟩ := buildTilemap_congr same g h left right spec index tilesets
      obtain ⟨last, all⟩ := ih cores (buildTilemap c g left spec index tilesets).graph
        (buildTilemap d h right spec index tilesets).graph
        (buildTilemap c g left spec index tilesets).grid
        (buildTilemap d h right spec index tilesets).grid (index + 1)
      refine ⟨last, ?_⟩
      intro graphs grids
      obtain ⟨sameGraph, sameGrid⟩ := built graphs grids
      exact all sameGraph sameGrid

/-! ## Elements of the user interface -/

theorem layers_importSprite (ctx : Context) (sprite : Option String) (subject : String) :
    (importSprite ctx sprite subject).1.layers = ctx.layers := by
  unfold importSprite
  split
  · rfl
  · exact ctx.layers_importAsset _ subject "sprite"

theorem importSprite_congr (same : c.core = d.core) (sprite : Option String)
    (subject : String) :
    (importSprite c sprite subject).1.core = (importSprite d sprite subject).1.core ∧
      (importSprite c sprite subject).2 = (importSprite d sprite subject).2 := by
  unfold importSprite
  cases nonBlank? sprite with
  | none => exact ⟨same, rfl⟩
  | some path =>
      obtain ⟨cores, assets⟩ := importAsset_congr same path subject "sprite"
      exact ⟨cores, congrArg (Option.map (·.canonicalPath)) assets⟩

/-- The graph with an element of the user interface, and its entity. -/
def placeElement (behaviors : Index) (layers : LayerTable) (graph : Graph) (canvas : EntityId)
    (spec : Element) (action : Option ButtonAction) (color : Color) (sprite : Option String) :
    Graph × EntityId :=
  let spawned := graph.spawn (Text.trim spec.displayName) (some canvas)
  let filled := spawned.1.modify spawned.2 fun e =>
    { e with
      layer := uiLayerIndex
      components := { e.components with
        ui := some
          { kind := spec.kind
            rect := spec.rectTransform
            text := elementText spec
            fontSize := (spec.fontSize.filter Geometry.isPositive).getD usualFontSize
            color
            sprite
            onClick := if spec.kind = .button then action else none } } }
  ((Behavior.attach behaviors layers filled spawned.2 spec.scripts).1, spawned.2)

/-- The context in which the behaviors of an element are attached. -/
def elementContext (ctx : Context) (spec : Element) : Context :=
  let name := Text.trim spec.displayName
  (importSprite (ctx.readColor spec.color name "color").1 spec.sprite name).1

theorem layers_elementContext (ctx : Context) (spec : Element) :
    (elementContext ctx spec).layers = ctx.layers := by
  unfold elementContext
  rw [layers_importSprite, layers_readColor]

theorem elementContext_congr (same : c.core = d.core) (spec : Element) :
    (elementContext c spec).core = (elementContext d spec).core ∧
      (importSprite (c.readColor spec.color (Text.trim spec.displayName) "color").1 spec.sprite
          (Text.trim spec.displayName)).2 =
        (importSprite (d.readColor spec.color (Text.trim spec.displayName) "color").1 spec.sprite
          (Text.trim spec.displayName)).2 := by
  apply importSprite_congr
  rw [core_readColor, core_readColor]
  exact same

theorem buildUiElement_context (ctx : Context) (graph : Graph) (canvas : EntityId)
    (spec : Element) (action : Option ButtonAction) :
    ∃ faults, (buildUiElement ctx graph canvas spec action).1 =
      (elementContext ctx spec).recordAll faults := ⟨_, rfl⟩

theorem buildUiElement_placed (ctx : Context) (graph : Graph) (canvas : EntityId)
    (spec : Element) (action : Option ButtonAction) :
    (buildUiElement ctx graph canvas spec action).2 =
      placeElement (elementContext ctx spec).behaviors (elementContext ctx spec).layers graph
        canvas spec action (ctx.readColor spec.color (Text.trim spec.displayName) "color").2
        (importSprite (ctx.readColor spec.color (Text.trim spec.displayName) "color").1 spec.sprite
          (Text.trim spec.displayName)).2 := rfl

theorem core_buildUiElement (same : c.core = d.core) (g h : Graph) (canvas : EntityId)
    (spec : Element) (action : Option ButtonAction) :
    (buildUiElement c g canvas spec action).1.core =
      (buildUiElement d h canvas spec action).1.core := by
  obtain ⟨first, left⟩ := buildUiElement_context c g canvas spec action
  obtain ⟨second, right⟩ := buildUiElement_context d h canvas spec action
  rw [left, right, core_recordAll, core_recordAll]
  exact (elementContext_congr same spec).1

theorem layers_buildUiElement (ctx : Context) (graph : Graph) (canvas : EntityId)
    (spec : Element) (action : Option ButtonAction) :
    (buildUiElement ctx graph canvas spec action).1.layers = ctx.layers := by
  obtain ⟨faults, whole⟩ := buildUiElement_context ctx graph canvas spec action
  rw [whole, layers_recordAll, layers_elementContext]

theorem buildUiElement_congr (same : c.core = d.core) (layers : c.layers = d.layers)
    (graph : Graph) (canvas : EntityId) (spec : Element) (action : Option ButtonAction) :
    (buildUiElement c graph canvas spec action).2 =
      (buildUiElement d graph canvas spec action).2 := by
  obtain ⟨cores, sprites⟩ := elementContext_congr same spec
  have behaviors := congrArg Core.behaviors cores
  have tables : (elementContext c spec).layers = (elementContext d spec).layers := by
    rw [layers_elementContext, layers_elementContext, layers]
  rw [buildUiElement_placed, buildUiElement_placed, tables, sprites, readColor_color,
    readColor_color]
  exact congrArg (fun index => placeElement index _ _ _ _ _ _ _) behaviors

theorem core_buildElements (same : c.core = d.core) (g h : Graph) (canvas : EntityId)
    (specs : List Element) (actions : List (Option ButtonAction)) :
    (buildElements canvas c g specs actions).1.core =
      (buildElements canvas d h specs actions).1.core := by
  induction specs generalizing c d g h actions with
  | nil => exact same
  | cons spec rest ih =>
      unfold buildElements
      exact ih (core_buildUiElement same g h canvas spec _) _ _ _

theorem layers_buildElements (ctx : Context) (graph : Graph) (canvas : EntityId)
    (specs : List Element) (actions : List (Option ButtonAction)) :
    (buildElements canvas ctx graph specs actions).1.layers = ctx.layers := by
  induction specs generalizing ctx graph actions with
  | nil => rfl
  | cons spec rest ih =>
      unfold buildElements
      have stays := layers_buildUiElement ctx graph canvas spec (actions.head?.bind id)
      exact (ih _ _ _).trans stays

theorem buildElements_congr (same : c.core = d.core) (layers : c.layers = d.layers)
    (graph : Graph) (canvas : EntityId) (specs : List Element)
    (actions : List (Option ButtonAction)) :
    (buildElements canvas c graph specs actions).2 =
      (buildElements canvas d graph specs actions).2 := by
  induction specs generalizing c d graph actions with
  | nil => rfl
  | cons spec rest ih =>
      have cores := core_buildUiElement same graph graph canvas spec (actions.head?.bind id)
      have tables : (buildUiElement c graph canvas spec (actions.head?.bind id)).1.layers =
          (buildUiElement d graph canvas spec (actions.head?.bind id)).1.layers := by
        rw [layers_buildUiElement, layers_buildUiElement, layers]
      have built := buildUiElement_congr same layers graph canvas spec (actions.head?.bind id)
      unfold buildElements
      generalize buildUiElement c graph canvas spec (actions.head?.bind id) = first
        at cores tables built ⊢
      generalize buildUiElement d graph canvas spec (actions.head?.bind id) = second
        at cores tables built ⊢
      obtain ⟨left, graphs⟩ := first
      obtain ⟨right, others⟩ := second
      dsimp only at cores tables built
      subst built
      exact ih cores tables graphs.1 actions.tail

end GameScenes.Build
