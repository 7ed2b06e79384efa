import GameScenes.Proofs.Build.Replay
import GameScenes.Proofs.Build.Roles
import GameScenes.Proofs.Scene.Reachable
import GameScenes.Proofs.Scene.Settling

/-!
# The cast of a scene

Every entity of a compiled scene has one role, and every part of the document that makes an entity
makes one, in the order of the document (`compileScene_cast`).
-/

set_option autoImplicit false

namespace GameScenes.Build

open Behavior (Index)
open Document (Element Object Tilemap Tileset)
open Scene (Artifact ButtonAction Entity Graph UiRoots Visual)
open Role (credits credits_append credits_checked credits_cons_of_some credits_of_none)

variable {g : Graph}

/-! ## Objects -/

/-- The parent of an object is an entity that was made before. -/
theorem findParent_lt (orderly : g.Orderly) (ctx : Context) (spec : Object) (name : String) :
    ∀ p, (findParent ctx g spec name).2 = some p → p < g.size := by
  unfold findParent
  split
  · simp
  · split
    next resolution found =>
      intro p same
      cases same
      exact Graph.lt_of_resolve? orderly (by simp) found
    · simp

theorem placeEntity_gains (orderly : g.Orderly) (behaviors : Index) (layers : LayerTable)
    (spec : Object) {parent : Option EntityId} (valid : ∀ p, parent = some p → p < g.size)
    (tag : Option String) (layer : Option Nat) (visual : Option Visual) :
    (placeEntity behaviors layers g spec parent tag layer visual).2 = g.size ∧
      ∃ checks, Gains g (placeEntity behaviors layers g spec parent tag layer visual).1
        (.object spec :: List.replicate checks (.groundCheck g.size)) := by
  unfold placeEntity
  dsimp only
  rw [Graph.spawn_id]
  refine ⟨rfl, ?_⟩
  apply Gains.addWearing orderly (.object spec) (.inl rfl) (Text.trim spec.displayName) valid
  · exact fun e => rfl
  · exact ⟨rfl, trivial, rfl, rfl, rfl, rfl, rfl, rfl, rfl⟩

theorem buildEntity_gains (orderly : g.Orderly) (ctx : Context) (spec : Object) :
    (buildEntity ctx g spec).2.2 = g.size ∧
      ∃ checks, Gains g (buildEntity ctx g spec).2.1
        (.object spec :: List.replicate checks (.groundCheck g.size)) := by
  rw [buildEntity_placed]
  exact placeEntity_gains orderly _ _ spec
    (findParent_lt orderly ctx spec (Text.trim spec.displayName)) _ _ _

/-- The entities that are made for objects. -/
def madeObjects : Context → Graph → List Object → List (EntityId × Object)
  | _, _, [] => []
  | ctx, graph, spec :: rest =>
      let built := buildEntity ctx graph spec
      (built.2.2, spec) :: madeObjects built.1 built.2.1 rest

theorem placeEntities_gains (orderly : g.Orderly) (ctx : Context) (specs : List Object) :
    ∃ roles, Gains g (placeEntities ctx g specs).2 roles ∧
      credits Role.object? g.size roles = madeObjects ctx g specs ∧
      ∀ role ∈ roles, (∃ spec, role = .object spec) ∨ ∃ owner, role = .groundCheck owner := by
  induction specs generalizing g ctx with
  | nil => exact ⟨[], .refl orderly, rfl, by simp⟩
  | cons spec rest ih =>
      obtain ⟨newest, checks, gains⟩ := buildEntity_gains orderly ctx spec
      obtain ⟨others, further, made, kinds⟩ := ih gains.orderly (buildEntity ctx g spec).1
      unfold placeEntities madeObjects
      refine ⟨_, gains.trans further, ?_, ?_⟩
      · rw [credits_append, ← gains.size, made,
          credits_checked Role.object? g.size (show (Role.object spec).object? = some spec from rfl)
            rfl]
        dsimp only
        rw [newest]
        rfl
      · intro role member
        rcases List.mem_append.mp member with early | late
        · rcases List.mem_cons.mp early with rfl | check
          · exact .inl ⟨spec, rfl⟩
          · exact .inr ⟨g.size, List.eq_of_mem_replicate check⟩
        · exact kinds role late

/-! ## Elements of the user interface -/

theorem placeElement_gains (orderly : g.Orderly) (behaviors : Index) (layers : LayerTable)
    {canvas : EntityId} (inside : canvas < g.size) (spec : Element)
    (action : Option ButtonAction) (color : Color) (sprite : Option String) :
    (placeElement behaviors layers g canvas spec action color sprite).2 = g.size ∧
      ∃ checks, Gains g (placeElement behaviors layers g canvas spec action color sprite).1
        (.element canvas spec :: List.replicate checks (.groundCheck g.size)) := by
  unfold placeElement
  dsimp only
  rw [Graph.spawn_id]
  refine ⟨rfl, ?_⟩
  apply Gains.addWearing orderly (.element canvas spec) (.inr rfl) (Text.trim spec.displayName)
    (Graph.lt_of_some inside)
  · exact fun e => rfl
  · exact ⟨rfl, rfl, rfl, rfl, rfl, rfl, rfl, rfl, rfl⟩

theorem buildUiElement_gains (orderly : g.Orderly) {canvas : EntityId} (inside : canvas < g.size)
    (ctx : Context) (spec : Element) (action : Option ButtonAction) :
    (buildUiElement ctx g canvas spec action).2.2 = g.size ∧
      ∃ checks, Gains g (buildUiElement ctx g canvas spec action).2.1
        (.element canvas spec :: List.replicate checks (.groundCheck g.size)) := by
  rw [buildUiElement_placed]
  exact placeElement_gains orderly _ _ inside spec action _ _

/-- The entities that are made for elements. -/
def madeElements (canvas : EntityId) :
    Context → Graph → List Element → List (Option ButtonAction) → List (EntityId × Element)
  | _, _, [], _ => []
  | ctx, graph, spec :: rest, actions =>
      let built := buildUiElement ctx graph canvas spec (actions.head?.bind id)
      (built.2.2, spec) :: madeElements canvas built.1 built.2.1 rest actions.tail

theorem buildElements_gains (orderly : g.Orderly) {canvas : EntityId} (inside : canvas < g.size)
    (ctx : Context) (specs : List Element) (actions : List (Option ButtonAction)) :
    ∃ roles, Gains g (buildElements canvas ctx g specs actions).2 roles ∧
      credits Role.element? g.size roles = madeElements canvas ctx g specs actions ∧
      ∀ role ∈ roles, (∃ spec, role = .element canvas spec) ∨
        ∃ owner, role = .groundCheck owner := by
  induction specs generalizing g ctx actions with
  | nil => exact ⟨[], .refl orderly, rfl, by simp⟩
  | cons spec rest ih =>
      obtain ⟨newest, checks, gains⟩ := buildUiElement_gains orderly inside ctx spec
        (actions.head?.bind id)
      have still :
          canvas < (buildUiElement ctx g canvas spec (actions.head?.bind id)).2.1.size := by
        rw [gains.size]
        exact Nat.lt_add_right _ inside
      obtain ⟨others, further, made, kinds⟩ := ih gains.orderly still
        (buildUiElement ctx g canvas spec (actions.head?.bind id)).1 actions.tail
      unfold buildElements madeElements
      refine ⟨_, gains.trans further, ?_, ?_⟩
      · rw [credits_append, ← gains.size, made,
          credits_checked Role.element? g.size
            (show (Role.element canvas spec).element? = some spec from rfl) rfl]
        dsimp only
        rw [newest]
        rfl
      · intro role member
        rcases List.mem_append.mp member with early | late
        · rcases List.mem_cons.mp early with rfl | check
          · exact .inl ⟨spec, rfl⟩
          · exact .inr ⟨g.size, List.eq_of_mem_replicate check⟩
        · exact kinds role late

/-! ## Tilemaps -/

/-- The layers that are made for tilemaps from a position on. -/
def madeLayers (tilesets : List Tileset) :
    Context → Graph → Option EntityId → Nat → List Tilemap → List (EntityId × Nat × Tilemap)
  | _, _, _, _, [] => []
  | ctx, graph, grid, index, spec :: rest =>
      let step := buildTilemap ctx graph grid spec index tilesets
      (step.layer.map fun id => (id, index, spec)).toList ++
        madeLayers tilesets step.context step.graph step.grid (index + 1) rest

/-- A tilemap leaves the graph as it is, or it is painted. -/
theorem buildTilemap_cases (ctx : Context) (graph : Graph) (grid : Option EntityId)
    (spec : Tilemap) (index : Nat) (tilesets : List Tileset) :
    ((buildTilemap ctx graph grid spec index tilesets).graph = graph ∧
      (buildTilemap ctx graph grid spec index tilesets).grid = grid ∧
      (buildTilemap ctx graph grid spec index tilesets).layer = none) ∨
    ∃ imported asset sliced, buildTilemap ctx graph grid spec index tilesets =
      paintTilemap imported graph grid spec (layerName spec index) asset sliced := by
  unfold buildTilemap
  extract_lets name
  split
  · exact .inl ⟨rfl, rfl, rfl⟩
  · split
    · exact .inl ⟨rfl, rfl, rfl⟩
    next imported asset _ =>
      split
      · exact .inl ⟨rfl, rfl, rfl⟩
      next sliced _ => exact .inr ⟨imported, asset, sliced, rfl⟩

theorem paintLayer_gains (orderly : g.Orderly) {root : EntityId} (inside : root < g.size)
    (index : Nat) (spec : Tilemap) {fill : Entity → Entity}
    (links : ∀ e, (fill e).links = e.links)
    (described : (Role.layer root index spec).Describes
      (fill { Entity.blank g.size (layerName spec index) with parent := some root })) :
    Gains g (g.add (layerName spec index) (some root) fill) [.layer root index spec] := by
  exact .add orderly _ _ (Graph.lt_of_some inside) links described (by simp)

theorem paintTilemap_gains (orderly : g.Orderly) (ctx : Context) {root : EntityId}
    (inside : root < g.size) (spec : Tilemap) (index : Nat) (asset : ImportedAsset)
    (sliced : Tiles.SlicedAtlas) :
    (paintTilemap ctx g (some root) spec (layerName spec index) asset sliced).grid = some root ∧
      (paintTilemap ctx g (some root) spec (layerName spec index) asset sliced).layer =
        some g.size ∧
      Gains g (paintTilemap ctx g (some root) spec (layerName spec index) asset sliced).graph
        [.layer root index spec] := by
  unfold paintTilemap
  extract_lets atlas painted faulted cellSize
  rw [Context.registerSortingLayer_pair faulted]
  dsimp only [ensureGrid]
  rw [Graph.spawn_id]
  refine ⟨rfl, rfl, ?_⟩
  apply paintLayer_gains orderly inside index spec
  · exact fun e => rfl
  · exact ⟨rfl, rfl, rfl, rfl, rfl, rfl, rfl, rfl⟩

/-- Without a grid, painting a tilemap is the same as making the grid first. -/
theorem paintTilemap_none (ctx : Context) (g : Graph) (spec : Tilemap) (name : String)
    (asset : ImportedAsset) (sliced : Tiles.SlicedAtlas) :
    paintTilemap ctx g none spec name asset sliced =
      paintTilemap ctx (g.spawn gridName none).1 (some g.size) spec name asset sliced := by
  unfold paintTilemap
  extract_lets atlas painted faulted cellSize
  rw [Context.registerSortingLayer_pair faulted]
  rfl

theorem gains_grid (orderly : g.Orderly) : Gains g (g.spawn gridName none).1 [.grid] := by
  rw [Graph.spawn_eq_add]
  apply Gains.add orderly .grid gridName (by simp)
  · exact fun e => rfl
  · exact ⟨rfl, rfl, rfl, rfl, rfl, rfl, rfl, rfl⟩
  · simp

/-- Over a grid every tilemap that is painted adds its layer. -/
theorem buildTilemaps_gains (orderly : g.Orderly) (tilesets : List Tileset) {root : EntityId}
    (inside : root < g.size) (ctx : Context) (index : Nat) (specs : List Tilemap) :
    ∃ roles, Gains g (buildTilemaps tilesets ctx g (some root) index specs).2 roles ∧
      credits Role.layer? g.size roles = madeLayers tilesets ctx g (some root) index specs ∧
      ∀ role ∈ roles, ∃ index spec, role = .layer root index spec := by
  induction specs generalizing g ctx index with
  | nil => exact ⟨[], .refl orderly, rfl, by simp⟩
  | cons spec rest ih =>
      unfold buildTilemaps madeLayers
      dsimp only
      rcases buildTilemap_cases ctx g (some root) spec index tilesets with
        ⟨graph, grid, layer⟩ | ⟨imported, asset, sliced, painted⟩
      · rw [graph, grid, layer]
        exact ih orderly inside (buildTilemap ctx g (some root) spec index tilesets).context _
      · obtain ⟨grid, layer, gains⟩ :=
          paintTilemap_gains orderly imported inside spec index asset sliced
        have still : root < (paintTilemap imported g (some root) spec (layerName spec index) asset
            sliced).graph.size := by
          rw [gains.size]
          exact Nat.lt_add_right _ inside
        obtain ⟨others, further, made, kinds⟩ := ih gains.orderly still
          (paintTilemap imported g (some root) spec (layerName spec index) asset sliced).context
          (index + 1)
        rw [painted, grid, layer]
        refine ⟨_, gains.trans further, ?_, ?_⟩
        · rw [credits_append, ← gains.size, made]
          rfl
        · intro role member
          rcases List.mem_append.mp member with early | late
          · exact ⟨index, spec, List.mem_singleton.mp early⟩
          · exact kinds role late

/-- The grid is made for the first layer, and there is none without a layer. -/
theorem buildTilemaps_gains_grid (orderly : g.Orderly) (tilesets : List Tileset) (ctx : Context)
    (index : Nat) (specs : List Tilemap) :
    ∃ roles, Gains g (buildTilemaps tilesets ctx g none index specs).2 roles ∧
      credits Role.layer? g.size roles = madeLayers tilesets ctx g none index specs ∧
      (roles = [] ∨ ∃ layers, roles = .grid :: layers ∧ layers ≠ [] ∧
        ∀ role ∈ layers, ∃ index spec, role = .layer g.size index spec) := by
  induction specs generalizing ctx index with
  | nil => exact ⟨[], .refl orderly, rfl, .inl rfl⟩
  | cons spec rest ih =>
      unfold buildTilemaps madeLayers
      dsimp only
      rcases buildTilemap_cases ctx g none spec index tilesets with
        ⟨graph, grid, layer⟩ | ⟨imported, asset, sliced, painted⟩
      · rw [graph, grid, layer]
        exact ih (buildTilemap ctx g none spec index tilesets).context _
      · -- the first layer brings the grid, over which the others are painted
        have first := gains_grid orderly
        have inside := Graph.lt_size_spawn g gridName none
        obtain ⟨grid, layer, gains⟩ :=
          paintTilemap_gains first.orderly imported inside spec index asset sliced
        have still : g.size < (paintTilemap imported (g.spawn gridName none).1 (some g.size) spec
            (layerName spec index) asset sliced).graph.size := by
          rw [gains.size]
          exact Nat.lt_add_right _ inside
        obtain ⟨others, further, made, kinds⟩ := buildTilemaps_gains gains.orderly tilesets still
          (paintTilemap imported (g.spawn gridName none).1 (some g.size) spec
            (layerName spec index) asset sliced).context (index + 1) rest
        rw [painted, paintTilemap_none, grid, layer]
        refine ⟨_, (first.trans gains).trans further, ?_, .inr ⟨_, rfl, by simp, ?_⟩⟩
        · rw [credits_append, ← (first.trans gains).size, made, Graph.size_spawn]
          rfl
        · intro role member
          rcases List.mem_cons.mp member with rfl | late
          · exact ⟨index, spec, rfl⟩
          · exact kinds role late

/-! ## The entities of every scene -/

theorem createCamera_gains (orderly : g.Orderly) (spec : Document.Camera)
    (background : Option Color) :
    (createCamera g spec background).2 = g.size ∧
      Gains g (createCamera g spec background).1 [.camera] := by
  unfold createCamera
  dsimp only
  rw [Graph.spawn_id]
  refine ⟨rfl, ?_⟩
  apply Gains.add orderly .camera mainCameraName (by simp)
  · exact fun e => rfl
  · exact ⟨rfl, rfl, rfl, rfl, rfl, rfl, rfl, trivial⟩
  · simp

theorem createUiRoots_gains (orderly : g.Orderly) (settings : Document.CanvasSettings) :
    (createUiRoots g settings).2 = ⟨g.size, g.size + 1⟩ ∧
      Gains g (createUiRoots g settings).1 [.canvas, .eventSystem] := by
  unfold createUiRoots
  dsimp only
  rw [Graph.spawn_id, Graph.spawn_id]
  have canvas : Gains g (g.add canvasName none fun e =>
      { e with
        layer := uiLayerIndex
        components := { e.components with
          canvas := some ⟨settings.renderMode, settings.referenceResolution⟩ } }) [.canvas] := by
    apply Gains.add orderly .canvas canvasName (by simp)
    · exact fun e => rfl
    · exact ⟨rfl, rfl, rfl, rfl, rfl, rfl, rfl, trivial⟩
    · simp
  refine ⟨?_, canvas.trans ?_⟩
  · rw [Graph.size_modify, Graph.size_spawn]
  · apply Gains.add canvas.orderly .eventSystem eventSystemName (by simp)
    · exact fun e => rfl
    · exact ⟨rfl, rfl, rfl, rfl, rfl, rfl, rfl, trivial⟩
    · simp

/-- The camera, the canvas and the event system come first. -/
theorem frameOf_gains (scene : Document.Scene) (background : Option Color) :
    (createCamera Graph.empty scene.camera background).2 = 0 ∧
      (frameOf scene background).2 = ⟨1, 2⟩ ∧
      Gains Graph.empty (frameOf scene background).1 [.camera, .canvas, .eventSystem] := by
  obtain ⟨first, camera⟩ := createCamera_gains Graph.orderly_empty scene.camera background
  obtain ⟨others, roots⟩ := createUiRoots_gains camera.orderly scene.uiSettings
  refine ⟨first, ?_, camera.trans roots⟩
  rw [camera.size] at others
  exact others

/-! ## Alignment -/

theorem Role.Describes.of_unplaced {role : Role} {e e' : Entity} (h : role.Describes e)
    (same : Graph.unplaced e' = Graph.unplaced e) : role.Describes e' := by
  have plain : role.Describes (Graph.unplaced e') := by
    rw [same]
    refine ⟨h.name, h.parent, h.camera, h.canvas, h.eventSystem, h.ui, h.tileLayer, ?_⟩
    cases role <;> exact h.shows
  refine ⟨plain.name, plain.parent, plain.camera, plain.canvas, plain.eventSystem, plain.ui,
    plain.tileLayer, ?_⟩
  cases role <;> exact plain.shows

theorem Gains.of_alike {h k : Graph} {roles : List Role} (gains : Gains Graph.empty h roles)
    (alike : Graph.AlikeUpToPlaces k h) : Gains Graph.empty k roles where
  orderly := by
    apply gains.orderly.of_links
    intro i
    have same := congrArg (Option.map Entity.links) (alike.get? i)
    rwa [Option.map_map, Option.map_map] at same
  size := by
    have same := congrArg List.length alike
    rw [List.length_map, List.length_map, Array.length_toList, Array.length_toList] at same
    exact same.trans gains.size
  kept i old := absurd old (Nat.not_lt_zero i)
  described role i member := by
    obtain ⟨e, there, described⟩ := gains.described role i member
    have same := alike.get? i
    rw [there] at same
    obtain ⟨placed, found, equal⟩ := Option.map_eq_some_iff.mp same
    exact ⟨placed, found, described.of_unplaced equal⟩
  owned := gains.owned

/-! ## Scenes -/

section

variable (ctx : Context) (scene : Document.Scene) (gameTilesets : List Tileset)
  (actions : List (Option ButtonAction))

/-- The entities that a scene makes for its objects. -/
def castObjects : List (EntityId × Object) :=
  madeObjects (backgroundStep ctx scene).1 (frameOf scene (backgroundStep ctx scene).2).1
    scene.gameObjects

/-- The entities that a scene makes for those of its tilemaps that can be built. -/
def castLayers : List (EntityId × Nat × Tilemap) :=
  madeLayers (scene.tilesets ++ gameTilesets) (entityStep ctx scene).1 (settledGraph ctx scene)
    none 0 scene.tilemaps

/-- The entities that a scene makes for the elements of its user interface. -/
def castElements : List (EntityId × Element) :=
  madeElements (frameOf scene (backgroundStep ctx scene).2).2.canvas
    (tilemapStep ctx scene gameTilesets).1 (tilemapStep ctx scene gameTilesets).2 scene.ui actions

theorem madeObjects_specs (ctx : Context) (g : Graph) (specs : List Object) :
    (madeObjects ctx g specs).map (·.2) = specs := by
  induction specs generalizing ctx g with
  | nil => rfl
  | cons spec rest ih => exact congrArg (spec :: ·) (ih _ _)

theorem madeElements_specs (canvas : EntityId) (ctx : Context) (g : Graph)
    (specs : List Element) (actions : List (Option ButtonAction)) :
    (madeElements canvas ctx g specs actions).map (·.2) = specs := by
  induction specs generalizing ctx g actions with
  | nil => rfl
  | cons spec rest ih => exact congrArg (spec :: ·) (ih _ _ _)

theorem madeLayers_specs (tilesets : List Tileset) (ctx : Context) (g : Graph)
    (grid : Option EntityId) (index : Nat) (specs : List Tilemap) :
    ((madeLayers tilesets ctx g grid index specs).map (·.2)).Sublist
      ((specs.zipIdx index).map fun entry => (entry.2, entry.1)) := by
  induction specs generalizing ctx g grid index with
  | nil => exact List.Sublist.refl _
  | cons spec rest ih =>
      have later := ih (buildTilemap ctx g grid spec index tilesets).context
        (buildTilemap ctx g grid spec index tilesets).graph
        (buildTilemap ctx g grid spec index tilesets).grid (index + 1)
      unfold madeLayers
      dsimp only
      rw [List.zipIdx_cons, List.map_cons, List.map_append]
      cases (buildTilemap ctx g grid spec index tilesets).layer with
      | none => exact later.cons _
      | some id => exact later.cons_cons _

end

/-! ## Roles of scenes -/

/-- The roles of a scene: those of every scene, then those of its objects, of its tilemaps and of
its elements. -/
def sceneRoles (objects tiles elements : List Role) : List Role :=
  [.camera, .canvas, .eventSystem] ++ objects ++ tiles ++ elements

theorem credits_sceneRoles {α : Type} (pick : Role → Option α)
    (objects tiles elements : List Role) :
    credits pick 0 (sceneRoles objects tiles elements) =
      credits pick 0 [.camera, .canvas, .eventSystem] ++ credits pick 3 objects ++
        credits pick (3 + objects.length) tiles ++
          credits pick (3 + objects.length + tiles.length) elements := by
  unfold sceneRoles
  rw [credits_append, credits_append, credits_append]
  simp [Nat.add_comm 3, Nat.add_assoc]

/-- What the roles in each part of a scene are. -/
structure Layout (objects tiles elements : List Role) : Prop where
  placed : ∀ role ∈ objects, (∃ spec, role = .object spec) ∨ ∃ owner, role = .groundCheck owner
  tiled : tiles = [] ∨ ∃ layers, tiles = .grid :: layers ∧ layers ≠ [] ∧
    ∀ role ∈ layers, ∃ index spec, role = .layer (3 + objects.length) index spec
  shown : ∀ role ∈ elements, (∃ spec, role = .element 1 spec) ∨
    ∃ owner, role = .groundCheck owner

namespace Layout

variable {objects tiles elements : List Role} (layout : Layout objects tiles elements)

include layout

theorem tileKinds : ∀ role ∈ tiles, role = .grid ∨
    ∃ index spec, role = .layer (3 + objects.length) index spec := by
  intro role member
  rcases layout.tiled with rfl | ⟨layers, rfl, -, kinds⟩
  · simp at member
  · rcases List.mem_cons.mp member with rfl | later
    · exact .inl rfl
    · exact .inr (kinds role later)

theorem credits_objects :
    credits Role.object? 0 (sceneRoles objects tiles elements) =
      credits Role.object? 3 objects := by
  have noTiles : credits Role.object? (3 + objects.length) tiles = [] := by
    apply credits_of_none
    intro role member
    rcases layout.tileKinds role member with rfl | ⟨_, _, rfl⟩ <;> rfl
  have noElements : credits Role.object? (3 + objects.length + tiles.length) elements = [] := by
    apply credits_of_none
    intro role member
    rcases layout.shown role member with ⟨_, rfl⟩ | ⟨_, rfl⟩ <;> rfl
  rw [credits_sceneRoles, noTiles, noElements, List.append_nil, List.append_nil]
  rfl

theorem credits_layers :
    credits Role.layer? 0 (sceneRoles objects tiles elements) =
      credits Role.layer? (3 + objects.length) tiles := by
  have noObjects : credits Role.layer? 3 objects = [] := by
    apply credits_of_none
    intro role member
    rcases layout.placed role member with ⟨_, rfl⟩ | ⟨_, rfl⟩ <;> rfl
  have noElements : credits Role.layer? (3 + objects.length + tiles.length) elements = [] := by
    apply credits_of_none
    intro role member
    rcases layout.shown role member with ⟨_, rfl⟩ | ⟨_, rfl⟩ <;> rfl
  rw [credits_sceneRoles, noObjects, noElements, List.append_nil, List.append_nil]
  rfl

theorem credits_elements :
    credits Role.element? 0 (sceneRoles objects tiles elements) =
      credits Role.element? (3 + objects.length + tiles.length) elements := by
  have noObjects : credits Role.element? 3 objects = [] := by
    apply credits_of_none
    intro role member
    rcases layout.placed role member with ⟨_, rfl⟩ | ⟨_, rfl⟩ <;> rfl
  have noTiles : credits Role.element? (3 + objects.length) tiles = [] := by
    apply credits_of_none
    intro role member
    rcases layout.tileKinds role member with rfl | ⟨_, _, rfl⟩ <;> rfl
  rw [credits_sceneRoles, noObjects, noTiles, List.append_nil, List.append_nil]
  rfl

/-- The roles of every scene are played by its first entities only. -/
theorem frame_only {i : Nat} {role : Role}
    (there : (sceneRoles objects tiles elements)[i]? = some role) :
    (role.isCamera = true ↔ i = 0) ∧ (role.isCanvas = true ↔ i = 1) ∧
      (role.isEventSystem = true ↔ i = 2) := by
  have later : ∀ other ∈ objects ++ (tiles ++ elements), other.isCamera = false ∧
      other.isCanvas = false ∧ other.isEventSystem = false := by
    intro other member
    rcases List.mem_append.mp member with first | member
    · rcases layout.placed other first with ⟨_, rfl⟩ | ⟨_, rfl⟩ <;> exact ⟨rfl, rfl, rfl⟩
    · rcases List.mem_append.mp member with second | third
      · rcases layout.tileKinds other second with rfl | ⟨_, _, rfl⟩ <;> exact ⟨rfl, rfl, rfl⟩
      · rcases layout.shown other third with ⟨_, rfl⟩ | ⟨_, rfl⟩ <;> exact ⟨rfl, rfl, rfl⟩
  unfold sceneRoles at there
  rw [List.append_assoc, List.append_assoc] at there
  match i with
  | 0 =>
      cases there
      exact ⟨by simp [Role.isCamera], by simp [Role.isCanvas], by simp [Role.isEventSystem]⟩
  | 1 =>
      cases there
      exact ⟨by simp [Role.isCamera], by simp [Role.isCanvas], by simp [Role.isEventSystem]⟩
  | 2 =>
      cases there
      exact ⟨by simp [Role.isCamera], by simp [Role.isCanvas], by simp [Role.isEventSystem]⟩
  | i + 3 =>
      obtain ⟨camera, canvas, eventSystem⟩ := later role (List.mem_of_getElem? there)
      rw [camera, canvas, eventSystem]
      simp

/-- The grid comes behind the objects; there is one exactly if there is a layer. -/
theorem grid_only :
    Role.players Role.isGrid (sceneRoles objects tiles elements) =
      if credits Role.layer? (3 + objects.length) tiles = [] then []
      else [3 + objects.length] := by
  have noObjects : credits (fun role => if role.isGrid then some role else none) 3 objects =
      [] := by
    apply credits_of_none
    intro role member
    rcases layout.placed role member with ⟨_, rfl⟩ | ⟨_, rfl⟩ <;> rfl
  have noElements : credits (fun role => if role.isGrid then some role else none)
      (3 + objects.length + tiles.length) elements = [] := by
    apply credits_of_none
    intro role member
    rcases layout.shown role member with ⟨_, rfl⟩ | ⟨_, rfl⟩ <;> rfl
  rw [Role.players, credits_sceneRoles, noObjects, noElements]
  rcases layout.tiled with rfl | ⟨layers, rfl, present, kinds⟩
  · rfl
  · have noGrid : credits (fun role => if role.isGrid then some role else none)
        (3 + objects.length + 1) layers = [] := by
      apply credits_of_none
      intro role member
      obtain ⟨_, _, rfl⟩ := kinds role member
      rfl
    have layered : credits Role.layer? (3 + objects.length) (.grid :: layers) ≠ [] := by
      obtain ⟨first, rest, rfl⟩ := List.exists_cons_of_ne_nil present
      obtain ⟨index, spec, rfl⟩ := kinds first (List.mem_cons_self ..)
      simp [credits, List.zipIdx_cons, Role.layer?]
    have first : (if Role.grid.isGrid then some Role.grid else none) = some .grid := rfl
    rw [if_neg layered, credits_cons_of_some (fun role => if role.isGrid then some role else none)
      (3 + objects.length) first, noGrid]
    rfl

/-- Every role stands in one of the parts. -/
theorem cases_of_mem {role : Role} (member : role ∈ sceneRoles objects tiles elements) :
    role ∈ [Role.camera, .canvas, .eventSystem] ∨ (∃ spec, role = .object spec) ∨
      (∃ owner, role = .groundCheck owner) ∨ (role = .grid) ∨
      (role ∈ tiles ∧ ∃ index spec, role = .layer (3 + objects.length) index spec) ∨
      ∃ spec, role = .element 1 spec := by
  simp only [sceneRoles, List.mem_append] at member
  rcases member with ((first | object) | tile) | element
  · exact .inl first
  · rcases layout.placed role object with spec | owner
    · exact .inr (.inl spec)
    · exact .inr (.inr (.inl owner))
  · rcases layout.tileKinds role tile with grid | layer
    · exact .inr (.inr (.inr (.inl grid)))
    · exact .inr (.inr (.inr (.inr (.inl ⟨tile, layer⟩))))
  · rcases layout.shown role element with spec | owner
    · exact .inr (.inr (.inr (.inr (.inr spec))))
    · exact .inr (.inr (.inl owner))

theorem grid_of_layer {root index : Nat} {spec : Tilemap}
    (member : Role.layer root index spec ∈ sceneRoles objects tiles elements) :
    (sceneRoles objects tiles elements)[root]? = some .grid := by
  rcases layout.cases_of_mem member with first | ⟨_, same⟩ | ⟨_, same⟩ | same |
    ⟨tile, _, _, same⟩ | ⟨_, same⟩
  · simp at first
  · cases same
  · cases same
  · cases same
  · cases same
    rcases layout.tiled with rfl | ⟨layers, rfl, -, -⟩
    · simp at tile
    · have front : ([Role.camera, .canvas, .eventSystem] ++ objects).length =
          3 + objects.length := by
        rw [List.length_append]
        rfl
      unfold sceneRoles
      rw [List.append_assoc, List.getElem?_append_right (Nat.le_of_eq front), front, Nat.sub_self]
      rfl
  · cases same

theorem grid_or_none :
    (credits Role.layer? (3 + objects.length) tiles = [] ∧
      ∀ id : EntityId, (sceneRoles objects tiles elements)[id]? ≠ some .grid) ∨
    ∃ root : EntityId, credits Role.layer? (3 + objects.length) tiles ≠ [] ∧
      (∀ id : EntityId, (sceneRoles objects tiles elements)[id]? = some .grid ↔ id = root) ∧
      ∀ (id below index : Nat) (spec : Tilemap),
        (sceneRoles objects tiles elements)[id]? = some (.layer below index spec) →
          below = root := by
  have only := layout.grid_only
  by_cases bare : credits Role.layer? (3 + objects.length) tiles = []
  · rw [if_pos bare] at only
    refine .inl ⟨bare, ?_⟩
    intro id there
    rw [← Role.mem_players_isGrid, only] at there
    simp at there
  · rw [if_neg bare] at only
    have single : ∀ id : EntityId, (sceneRoles objects tiles elements)[id]? = some .grid ↔
        id = 3 + objects.length := by
      intro id
      rw [← Role.mem_players_isGrid, only, List.mem_singleton]
    refine .inr ⟨3 + objects.length, bare, single, ?_⟩
    intro id below index spec there
    exact (single below).mp (layout.grid_of_layer (List.mem_of_getElem? there))

theorem canvas_of_element {root : EntityId} {spec : Element}
    (member : Role.element root spec ∈ sceneRoles objects tiles elements) : root = 1 := by
  rcases layout.cases_of_mem member with first | ⟨_, same⟩ | ⟨_, same⟩ | same |
    ⟨_, _, _, same⟩ | ⟨_, same⟩
  · simp at first
  all_goals cases same
  rfl

end Layout

section

variable (ctx : Context) (scene : Document.Scene) (gameTilesets : List Tileset)
  (actions : List (Option ButtonAction))

theorem settledGraph_gains :
    ∃ objects : List Role,
      Gains Graph.empty (settledGraph ctx scene) ([.camera, .canvas, .eventSystem] ++ objects) ∧
      credits Role.object? 3 objects = castObjects ctx scene ∧
      ∀ role ∈ objects, (∃ spec, role = .object spec) ∨ ∃ owner, role = .groundCheck owner := by
  obtain ⟨-, -, frame⟩ := frameOf_gains scene (backgroundStep ctx scene).2
  obtain ⟨objects, placed, objectCredits, objectKinds⟩ :=
    placeEntities_gains frame.orderly (backgroundStep ctx scene).1 scene.gameObjects
  have entities : Gains Graph.empty (entityStep ctx scene).2
      ([.camera, .canvas, .eventSystem] ++ objects) := frame.trans placed
  have start : (frameOf scene (backgroundStep ctx scene).2).1.size = 3 := frame.size
  rw [start] at objectCredits
  exact ⟨objects, entities.of_alike (Graph.alignToGround_alikeUpToPlaces ..), objectCredits,
    objectKinds⟩

theorem tilemapStep_gains :
    ∃ objects tiles : List Role,
      Gains Graph.empty (tilemapStep ctx scene gameTilesets).2
        ([.camera, .canvas, .eventSystem] ++ objects ++ tiles) ∧
      credits Role.object? 3 objects = castObjects ctx scene ∧
      credits Role.layer? (3 + objects.length) tiles = castLayers ctx scene gameTilesets ∧
      (∀ role ∈ objects, (∃ spec, role = .object spec) ∨ ∃ owner, role = .groundCheck owner) ∧
      (tiles = [] ∨ ∃ layers, tiles = .grid :: layers ∧ layers ≠ [] ∧
        ∀ role ∈ layers, ∃ index spec, role = .layer (3 + objects.length) index spec) := by
  obtain ⟨objects, settled, objectCredits, objectKinds⟩ := settledGraph_gains ctx scene
  obtain ⟨tiles, tiled, tileCredits, tileKinds⟩ := buildTilemaps_gains_grid settled.orderly
    (scene.tilesets ++ gameTilesets) (entityStep ctx scene).1 0 scene.tilemaps
  have start : (settledGraph ctx scene).size = 3 + objects.length := by
    rw [settled.size]
    simp [Graph.empty, Graph.size]
    omega
  rw [start] at tileCredits tileKinds
  exact ⟨objects, tiles, settled.trans tiled, objectCredits, tileCredits, objectKinds, tileKinds⟩

theorem elementStep_gains :
    ∃ objects tiles elements : List Role,
      Gains Graph.empty (elementStep ctx scene gameTilesets actions).2
        (sceneRoles objects tiles elements) ∧
      Layout objects tiles elements ∧
      credits Role.object? 3 objects = castObjects ctx scene ∧
      credits Role.layer? (3 + objects.length) tiles = castLayers ctx scene gameTilesets ∧
      credits Role.element? (3 + objects.length + tiles.length) elements =
        castElements ctx scene gameTilesets actions := by
  obtain ⟨objects, tiles, painted, objectCredits, tileCredits, objectKinds, tileKinds⟩ :=
    tilemapStep_gains ctx scene gameTilesets
  have start : (tilemapStep ctx scene gameTilesets).2.size =
      3 + objects.length + tiles.length := by
    rw [painted.size]
    simp [Graph.empty, Graph.size]
    omega
  have canvas : 1 < (tilemapStep ctx scene gameTilesets).2.size := by
    rw [start]
    omega
  obtain ⟨elements, built, elementCredits, elementKinds⟩ := buildElements_gains painted.orderly
    canvas (tilemapStep ctx scene gameTilesets).1 scene.ui actions
  obtain ⟨-, roots, -⟩ := frameOf_gains scene (backgroundStep ctx scene).2
  have made : (frameOf scene (backgroundStep ctx scene).2).2.canvas = 1 :=
    congrArg UiRoots.canvas roots
  rw [start] at elementCredits
  refine ⟨objects, tiles, elements, ?_, ⟨objectKinds, tileKinds, elementKinds⟩, objectCredits,
    tileCredits, ?_⟩
  · have whole := painted.trans built
    rw [← made] at whole
    exact whole
  · unfold castElements
    rw [made]
    exact elementCredits

end

/-! ## Casts -/

/-- That an entity has a property that no other entity has. -/
def IsOnly (graph : Graph) (holds : Entity → Bool) (id : EntityId) : Prop :=
  (∃ e, graph.get? id = some e ∧ holds e = true) ∧
    ∀ other e, graph.get? other = some e → holds e = true → other = id

/-- That every entity of an artifact has one role, that these are the entities made for the objects,
the tilemaps and the elements, and that there are no others but those of every scene, the grid and
ground checks. -/
structure Cast (artifact : Artifact) (objects : List (EntityId × Object))
    (layers : List (EntityId × Nat × Tilemap)) (elements : List (EntityId × Element))
    (roles : List Role) : Prop where
  orderly : artifact.graph.Orderly
  size : artifact.graph.size = roles.length
  described : ∀ (id : EntityId) (role : Role), roles[id]? = some role →
    ∃ e, artifact.graph.get? id = some e ∧ role.Describes e
  camera : ∃ camera, artifact.camera = some camera ∧
    IsOnly artifact.graph (·.components.camera.isSome) camera
  uiRoots : ∃ roots, artifact.uiRoots = some roots ∧
    IsOnly artifact.graph (·.components.canvas.isSome) roots.canvas ∧
    IsOnly artifact.graph (·.components.eventSystem) roots.eventSystem ∧
    ∀ (id root : EntityId) (spec : Element), roles[id]? = some (.element root spec) →
      root = roots.canvas
  objectRoles : credits Role.object? 0 roles = objects
  layerRoles : credits Role.layer? 0 roles = layers
  elementRoles : credits Role.element? 0 roles = elements
  /-- Within its kind an entity stands behind those that were made before it. -/
  ordered : (objects.map (·.1)).Pairwise (· < ·) ∧ (layers.map (·.1)).Pairwise (· < ·) ∧
    (elements.map (·.1)).Pairwise (· < ·)
  /-- Without a layer there is no grid; otherwise there is one, and all layers are below it. -/
  grid : (layers = [] ∧ ∀ id : EntityId, roles[id]? ≠ some .grid) ∨
    ∃ root : EntityId, layers ≠ [] ∧ (∀ id : EntityId, roles[id]? = some .grid ↔ id = root) ∧
      ∀ (id below index : Nat) (spec : Tilemap),
        roles[id]? = some (.layer below index spec) → below = root
  belowOwner : ∀ id owner : EntityId, roles[id]? = some (.groundCheck owner) →
    ∃ role : Role, roles[owner]? = some role ∧ role.Wears

section

variable {graph : Graph} {roles : List Role} (gains : Gains Graph.empty graph roles)

include gains

theorem Gains.size_eq : graph.size = roles.length :=
  gains.size.trans (Nat.zero_add roles.length)

theorem Gains.described_at (id : EntityId) (role : Role) (there : roles[id]? = some role) :
    ∃ e, graph.get? id = some e ∧ role.Describes e :=
  gains.described role id (List.mk_mem_zipIdx_iff_getElem?.mpr there)

theorem Gains.owned_at (id owner : EntityId) (there : roles[id]? = some (.groundCheck owner)) :
    ∃ role : Role, roles[owner]? = some role ∧ role.Wears := by
  obtain ⟨role, member, wears⟩ :=
    gains.owned owner id (List.mk_mem_zipIdx_iff_getElem?.mpr there)
  exact ⟨role, List.mk_mem_zipIdx_iff_getElem?.mp member, wears⟩

/-- An entity is the only one with a property when its role is the only one that comes with it. -/
theorem Gains.isOnly (id : EntityId) {holds : Entity → Bool} {plays : Role → Bool}
    (agrees : ∀ {role : Role} {e : Entity}, role.Describes e → holds e = plays role)
    (inside : id < roles.length)
    (only : ∀ i role, roles[i]? = some role → (plays role = true ↔ i = id)) :
    IsOnly graph holds id := by
  refine ⟨?_, ?_⟩
  · obtain ⟨e, found, described⟩ :=
      gains.described_at id roles[id] (List.getElem?_eq_getElem inside)
    refine ⟨e, found, ?_⟩
    rw [agrees described]
    exact (only id roles[id] (List.getElem?_eq_getElem inside)).mpr rfl
  · intro other e found holding
    have present : other < roles.length := gains.size_eq ▸ Graph.lt_size found
    obtain ⟨same, there, described⟩ :=
      gains.described_at other roles[other] (List.getElem?_eq_getElem present)
    rw [found] at there
    cases there
    rw [agrees described] at holding
    exact (only other roles[other] (List.getElem?_eq_getElem present)).mp holding

end

/-- What a scene is compiled to has one entity for each of its objects, its tilemaps that can be
built and its elements, each kind in the order of the document, besides those of every scene, the
grid and ground checks. -/
theorem compileScene_cast (ctx : Context) (scene : Document.Scene) (gameTilesets : List Tileset)
    (actions : List (Option ButtonAction)) (provenance : Provenance) :
    (∃ roles, Cast (compileScene ctx scene gameTilesets actions provenance).2
        (castObjects ctx scene) (castLayers ctx scene gameTilesets)
        (castElements ctx scene gameTilesets actions) roles) ∧
      (castObjects ctx scene).map (·.2) = scene.gameObjects ∧
      ((castLayers ctx scene gameTilesets).map (·.2)).Sublist
        (scene.tilemaps.zipIdx.map fun entry => (entry.2, entry.1)) ∧
      (castElements ctx scene gameTilesets actions).map (·.2) = scene.ui := by
  refine ⟨?_, madeObjects_specs _ _ _, madeLayers_specs _ _ _ _ _ _,
    madeElements_specs _ _ _ _ _⟩
  obtain ⟨objects, tiles, elements, gains, layout, objectCredits, tileCredits, elementCredits⟩ :=
    elementStep_gains ctx scene gameTilesets actions
  obtain ⟨camera, roots, -⟩ := frameOf_gains scene (backgroundStep ctx scene).2
  have many : 3 ≤ (sceneRoles objects tiles elements).length := by
    simp [sceneRoles]
  have only : IsOnly (elementStep ctx scene gameTilesets actions).2
        (·.components.camera.isSome) 0 ∧
      IsOnly (elementStep ctx scene gameTilesets actions).2 (·.components.canvas.isSome) 1 ∧
      IsOnly (elementStep ctx scene gameTilesets actions).2 (·.components.eventSystem) 2 := by
    refine ⟨gains.isOnly 0 (·.camera) ?_ ?_, gains.isOnly 1 (·.canvas) ?_ ?_,
      gains.isOnly 2 (·.eventSystem) many ?_⟩
    · exact Nat.lt_of_lt_of_le (by decide) many
    · exact fun i role there => (layout.frame_only there).1
    · exact Nat.lt_of_lt_of_le (by decide) many
    · exact fun i role there => (layout.frame_only there).2.1
    · exact fun i role there => (layout.frame_only there).2.2
  have madeObjects := layout.credits_objects.trans objectCredits
  have madeLayers := layout.credits_layers.trans tileCredits
  have madeElements := layout.credits_elements.trans elementCredits
  refine ⟨sceneRoles objects tiles elements, ?_⟩
  rw [compileScene_steps, camera, roots]
  exact
    { orderly := gains.orderly
      size := gains.size_eq
      described := gains.described_at
      camera := ⟨0, rfl, only.1⟩
      uiRoots := ⟨⟨1, 2⟩, rfl, only.2.1, only.2.2,
        fun id root spec there => layout.canvas_of_element (List.mem_of_getElem? there)⟩
      objectRoles := madeObjects
      layerRoles := madeLayers
      elementRoles := madeElements
      ordered := by
        rw [← madeObjects, ← madeLayers, ← madeElements]
        exact ⟨Role.credits_pairwise .., Role.credits_pairwise .., Role.credits_pairwise ..⟩
      grid := tileCredits ▸ layout.grid_or_none
      belowOwner := gains.owned_at }

/-- The graph of a built scene comes about by changes and edits of entities. -/
theorem compileScene_reachable (ctx : Context) (scene : Document.Scene)
    (gameTilesets : List Tileset) (actions : List (Option ButtonAction))
    (provenance : Provenance) :
    (compileScene ctx scene gameTilesets actions provenance).2.graph.Reachable := by
  obtain ⟨_, _, _, gains, -⟩ := elementStep_gains ctx scene gameTilesets actions
  rw [compileScene_steps]
  exact gains.orderly.forest.reachable

end GameScenes.Build
