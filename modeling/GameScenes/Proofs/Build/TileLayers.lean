import GameScenes.Proofs.Build.Sparing
import GameScenes.Proofs.Tiles.Naming
import GameScenes.Proofs.Tiles.Painted

/-!
# Tilemaps that are skipped or painted

A tilemap whose tileset or image cannot be used is skipped: one fault is recorded, and neither the
graph nor the tables of the project show that it was there.  Any other tilemap becomes the last
entity, which holds the painted tiles, and each thing that could not be used is recorded once
(`tilemaps_skipped_or_painted`).  The tilesets of a scene hide those of the game.
-/

set_option autoImplicit false

namespace GameScenes.Build

open Document (Grid Tilemap Tileset)
open Scene (Graph)
open Tiles (Atlas PaintedTile SlicedAtlas TileLayer UnknownTile)

/-! ## Named tilesets -/

/-- That a tileset is the first one of a name. -/
def FirstNamed (tilesets : List Tileset) (name : String) (tileset : Tileset) : Prop :=
  ∃ before after, tilesets = before ++ tileset :: after ∧ tileset.name = name ∧
    ∀ other ∈ before, other.name ≠ name

section
variable {tilesets locals globals : List Tileset} {name : String} {tileset : Tileset}

theorem find?_eq_some_iff :
    tilesets.find? (·.name == name) = some tileset ↔ FirstNamed tilesets name tileset := by
  rw [List.find?_eq_some_iff_append]
  constructor
  · rintro ⟨named, before, after, parts, others⟩
    exact ⟨before, after, parts, beq_iff_eq.mp named, by simpa using others⟩
  · rintro ⟨before, after, parts, named, others⟩
    exact ⟨beq_iff_eq.mpr named, before, after, parts, by simpa using others⟩

theorem find?_eq_none_iff :
    tilesets.find? (·.name == name) = none ↔ ∀ tileset ∈ tilesets, tileset.name ≠ name := by
  simp only [List.find?_eq_none, beq_iff_eq, ne_eq]

/-- That a tileset is meant by a name: the first one of a scene, or else the first one of the
game. -/
def Meant (locals globals : List Tileset) (name : String) (tileset : Tileset) : Prop :=
  FirstNamed locals name tileset ∨
    (∀ other ∈ locals, other.name ≠ name) ∧ FirstNamed globals name tileset

theorem find?_append_eq_some_iff :
    (locals ++ globals).find? (·.name == name) = some tileset ↔
      Meant locals globals name tileset := by
  rw [Meant, ← find?_eq_some_iff, ← find?_eq_some_iff, ← find?_eq_none_iff, List.find?_append,
    Option.or_eq_some_iff]

end

/-! ## Skipped tilemaps -/

section
variable (ctx : Context) (locals globals : List Tileset) (spec : Tilemap)

/-- What a tilemap is painted from: the tileset that its name means, and its image and atlas. -/
structure Supplies (tileset : Tileset) (asset : ImportedAsset) (sliced : SlicedAtlas) : Prop where
  meant : Meant locals globals spec.tileset tileset
  imported : (ctx.imports.importAsset ctx.assets tileset.image).result = .ok asset
  cut : Tiles.sliceAtlas tileset asset.pixelSize ctx.pixelsPerUnit = .ok sliced

/-- The faults for which a tilemap is skipped. -/
inductive SkipFault (layer : String) : Diagnostic → Prop where
  | unknown (absent : ∀ tileset ∈ locals ++ globals, tileset.name ≠ spec.tileset) :
      SkipFault layer (unknownTileset layer spec.tileset)
  | unusable (tileset : Tileset) (fault : AssetFault)
      (meant : Meant locals globals spec.tileset tileset)
      (failed : (ctx.imports.importAsset ctx.assets tileset.image).result = .error fault) :
      SkipFault layer ((((Diagnostic.warning (Context.assetFaultCode fault) fault.message).about
        layer).inField "tileset.image").withValue tileset.image)
  | uncut (tileset : Tileset) (asset : ImportedAsset) (fault : Tiles.AtlasFault)
      (meant : Meant locals globals spec.tileset tileset)
      (imported : (ctx.imports.importAsset ctx.assets tileset.image).result = .ok asset)
      (failed : Tiles.sliceAtlas tileset asset.pixelSize ctx.pixelsPerUnit = .error fault) :
      SkipFault layer (((Diagnostic.warning .invalidTileset fault.message).about
        layer).withValue tileset.name)

/-- That a tilemap leaves nothing but one fault. -/
structure Skipped (graph : Graph) (grid : Option EntityId) (index : Nat) (step : TilemapStep) :
    Prop where
  graph : step.graph = graph
  grid : step.grid = grid
  tables : step.context.tables = ctx.tables
  fault : ∃ d, SkipFault ctx locals globals spec (layerName spec index) d ∧
    step.context.log = ctx.log.push d

end

/-! ## Painted tilemaps -/

def outsideFault (tileset : String) (tile : Document.Tile) : Diagnostic :=
  ((Diagnostic.warning .tileOutOfAtlas
    ("tile '" ++ tile.name ++ "' lies outside the atlas of '" ++ tileset ++ "'")).about
      tileset).withValue tile.name

def legendFault (layer key : String) : Diagnostic :=
  (((Diagnostic.warning .invalidLegendKey "legend keys must be exactly one character").about
    layer).inField "grid.legend").withValue key

def unknownFault (layer tileset : String) (unknown : UnknownTile) : Diagnostic :=
  (((Diagnostic.warning .unknownTileName
    ("tileset '" ++ tileset ++ "' has no tile '" ++ unknown.name ++ "'; " ++
      Number.natText unknown.cells ++ " cell(s) left empty")).about layer).inField
        "grid.rows").withValue unknown.name

/-- That a list holds exactly the tiles that a grid paints from an atlas, row by row from the bottom
and in each row from the left. -/
structure ArePainted (grid : Grid) (atlas : Atlas) (tiles : List PaintedTile) : Prop where
  mem : ∀ tile, tile ∈ tiles ↔ ∃ c, Tiles.Shows grid tile.cell c ∧
    Tiles.tileName? grid c = some tile.tile ∧ atlas.cell? tile.tile = some tile.atlas
  ordered : tiles.Pairwise fun a b => a.cell.Before b.cell

/-- That a list holds each name once that a grid uses and an atlas does not know, in ascending order
and with the number of its characters. -/
structure AreUnknown (grid : Grid) (atlas : Atlas) (unknown : List UnknownTile) : Prop where
  mem : ∀ entry, entry ∈ unknown ↔ atlas.cell? entry.name = none ∧ 0 < entry.cells ∧
    entry.cells =
      (Tiles.characters grid).countP fun c => Tiles.tileName? grid c == some entry.name
  ordered : unknown.Pairwise fun a b => a.name < b.name

theorem paintGrid_arePainted (grid : Grid) (atlas : Atlas) :
    ArePainted grid atlas (Tiles.paintGrid grid atlas).tiles :=
  ⟨Tiles.mem_tiles_iff grid atlas, Tiles.ordered_tiles grid atlas⟩

theorem paintGrid_areUnknown (grid : Grid) (atlas : Atlas) :
    AreUnknown grid atlas (Tiles.paintGrid grid atlas).unknown :=
  ⟨Tiles.mem_unknown_iff grid atlas, (Tiles.countsRuns_countNames _).ordered⟩

/-- The faults of a painted tilemap: one for each declared tile outside the atlas, one for each key of
the legend that is no character, and one for each unknown name. -/
def paintedFaults (layer : String) (grid : Grid) (tileset : Tileset) (atlas : Atlas)
    (unknown : List UnknownTile) : List Diagnostic :=
  (tileset.tiles.filter fun tile => !atlas.holds tile).map (outsideFault tileset.name) ++
    ((grid.legend.map (·.1)).filter fun key => key.toList.length != 1).map (legendFault layer) ++
      unknown.map (unknownFault layer tileset.name)

/-- That a tilemap becomes a layer. -/
structure Painted (ctx : Context) (locals globals : List Tileset) (spec : Tilemap) (graph : Graph)
    (grid : Option EntityId) (index : Nat) (step : TilemapStep) (layer : EntityId) : Prop where
  last : layer + 1 = step.graph.size
  holds : ∃ tileset asset sliced entity tiles unknown,
    Supplies ctx locals globals spec tileset asset sliced ∧
      step.graph.get? layer = some entity ∧ entity.name = layerName spec index ∧
      entity.components.tileLayer = some
        { tileset := tileset.name
          atlasPath := asset.canonicalPath
          cellSize := cellSizeOf spec sliced.atlas
          sortingLayer := Context.sortingLayerOf (spec.sortingLayer.getD "")
          orderInLayer := spec.orderInLayer
          tiles
          collision := Tiles.collisionOf spec.collider (tiles.map (·.cell))
            (cellSizeOf spec sliced.atlas) } ∧
      ArePainted spec.grid sliced.atlas tiles ∧ AreUnknown spec.grid sliced.atlas unknown ∧
      step.context.log = ctx.log.pushAll
        (paintedFaults (layerName spec index) spec.grid tileset sliced.atlas unknown)
  spares : step.Spares graph grid
  tables : step.context.tables =
    (ctx.registerSortingLayer (spec.sortingLayer.getD "")).1.tables

/-! ## One tilemap -/

theorem importAsset_cases (ctx : Context) (raw subject field : String) :
    (∃ fault opened, (ctx.imports.importAsset ctx.assets raw).result = .error fault ∧
      ctx.importAsset raw subject field = (opened, none) ∧ opened.tables = ctx.tables ∧
      opened.log = ctx.log.push ((((Diagnostic.warning (Context.assetFaultCode fault)
        fault.message).about subject).inField field).withValue raw)) ∨
    ∃ asset opened, (ctx.imports.importAsset ctx.assets raw).result = .ok asset ∧
      ctx.importAsset raw subject field = (opened, some asset) ∧ opened.tables = ctx.tables ∧
      opened.draws = ctx.draws ∧ opened.log = ctx.log ∧
      opened.pixelsPerUnit = ctx.pixelsPerUnit := by
  unfold Context.importAsset
  dsimp only
  cases result : (ctx.imports.importAsset ctx.assets raw).result with
  | error fault => exact .inl ⟨fault, _, rfl, rfl, rfl, rfl⟩
  | ok asset => exact .inr ⟨asset, _, rfl, rfl, rfl, rfl, rfl, rfl⟩

section
variable (ctx : Context) (graph : Graph) (spec : Tilemap) (name : String) (asset : ImportedAsset)
  (sliced : SlicedAtlas)

/-- The layer that is painted from an atlas. -/
def tileLayerOf : TileLayer :=
  let painted := Tiles.paintGrid spec.grid sliced.atlas
  { tileset := sliced.atlas.tileset
    atlasPath := asset.canonicalPath
    cellSize := cellSizeOf spec sliced.atlas
    sortingLayer := Context.sortingLayerOf (spec.sortingLayer.getD "")
    orderInLayer := spec.orderInLayer
    tiles := painted.tiles
    collision := Tiles.collisionOf spec.collider painted.filledCells
      (cellSizeOf spec sliced.atlas) }

theorem paintTilemap_below (root : EntityId) : ∃ entity,
    (paintTilemap ctx graph (some root) spec name asset sliced).layer = some graph.size ∧
      (paintTilemap ctx graph (some root) spec name asset sliced).graph.size = graph.size + 1 ∧
      (paintTilemap ctx graph (some root) spec name asset sliced).graph.get? graph.size =
        some entity ∧
      entity.name = name ∧
      entity.components.tileLayer = some (tileLayerOf spec asset sliced) := by
  obtain ⟨made, spawned, same⟩ := Option.map_eq_some_iff.mp (graph.name_spawn name (some root))
  unfold paintTilemap
  extract_lets atlas painted faulted cellSize
  rw [Context.registerSortingLayer_pair faulted]
  dsimp only [ensureGrid]
  rw [Graph.spawn_id]
  have filled := fun change => (Graph.get?_modify_self (graph.spawn name (some root)).1 graph.size
    change).trans (congrArg (Option.map change) spawned)
  refine ⟨_, rfl, ?_, filled _, same, rfl⟩
  rw [Graph.size_modify, Graph.size_spawn]

/-- Whether there is a grid or not, the layer is the last entity. -/
theorem paintTilemap_layer (grid : Option EntityId) : ∃ layer entity,
    (paintTilemap ctx graph grid spec name asset sliced).layer = some layer ∧
      layer + 1 = (paintTilemap ctx graph grid spec name asset sliced).graph.size ∧
      (paintTilemap ctx graph grid spec name asset sliced).graph.get? layer = some entity ∧
      entity.name = name ∧
      entity.components.tileLayer = some (tileLayerOf spec asset sliced) := by
  cases grid with
  | some root =>
      obtain ⟨entity, layer, size, found⟩ :=
        paintTilemap_below ctx graph spec name asset sliced root
      exact ⟨_, entity, layer, size.symm, found⟩
  | none =>
      rw [paintTilemap_none]
      obtain ⟨entity, layer, size, found⟩ :=
        paintTilemap_below ctx (graph.spawn gridName none).1 spec name asset sliced graph.size
      exact ⟨_, entity, layer, size.symm, found⟩

/-- What is recorded before the sorting layer is put into its table. -/
theorem paintTilemap_registers (grid : Option EntityId) :
    (paintTilemap ctx graph grid spec name asset sliced).context =
      ((ctx.recordAll (outsideFaults sliced.atlas.tileset sliced.outOfRange ++
        paintingFaults name sliced.atlas.tileset
          (Tiles.paintGrid spec.grid sliced.atlas))).registerSortingLayer
            (spec.sortingLayer.getD "")).1 := by
  unfold paintTilemap
  extract_lets atlas painted faulted cellSize
  rw [Context.registerSortingLayer_pair faulted]

end

theorem tables_registerSortingLayer {c d : Context} (tables : c.tables = d.tables)
    (draws : c.draws = d.draws) (raw : String) :
    (c.registerSortingLayer raw).1.tables = (d.registerSortingLayer raw).1.tables := by
  unfold Context.registerSortingLayer
  dsimp only
  rw [tables, draws]
  split
  · exact tables
  · rfl

theorem log_recordAll (c : Context) (ds : List Diagnostic) :
    (c.recordAll ds).log = c.log.pushAll ds := rfl

theorem recorded_eq_paintedFaults {tileset : Tileset} {size : UInt32 × UInt32} {usual : Float32}
    {sliced : SlicedAtlas} (cut : Tiles.sliceAtlas tileset size usual = .ok sliced)
    (named : sliced.atlas.tileset = tileset.name) (layer : String) (grid : Grid) :
    outsideFaults sliced.atlas.tileset sliced.outOfRange ++
        paintingFaults layer sliced.atlas.tileset (Tiles.paintGrid grid sliced.atlas) =
      paintedFaults layer grid tileset sliced.atlas (Tiles.paintGrid grid sliced.atlas).unknown := by
  rw [(Tiles.isSlicing_of_sliceAtlas cut).outOfRange, named, outsideFaults, paintingFaults,
    paintedFaults, List.map_map, List.append_assoc]
  rfl

theorem tileset_sliceAtlas {tileset : Tileset} {size : UInt32 × UInt32} {usual : Float32}
    {sliced : SlicedAtlas} (cut : Tiles.sliceAtlas tileset size usual = .ok sliced) :
    sliced.atlas.tileset = tileset.name := by
  unfold Tiles.sliceAtlas at cut
  dsimp only at cut
  split at cut
  · cases cut
  · split at cut
    · cases cut
    · cases cut
      rfl

/-- What becomes of a tilemap. -/
def TilemapStep.Outcome (ctx : Context) (locals globals : List Tileset) (spec : Tilemap)
    (graph : Graph) (grid : Option EntityId) (index : Nat) (step : TilemapStep) : Prop :=
  match step.layer with
  | none => Skipped ctx locals globals spec graph grid index step
  | some layer => Painted ctx locals globals spec graph grid index step layer

section
variable {ctx opened : Context} {locals globals : List Tileset} {spec : Tilemap} {graph : Graph}
  {grid : Option EntityId} {index : Nat}

theorem paintTilemap_outcome {tileset : Tileset} {asset : ImportedAsset} {sliced : SlicedAtlas}
    (supplies : Supplies ctx locals globals spec tileset asset sliced)
    (tables : opened.tables = ctx.tables) (draws : opened.draws = ctx.draws)
    (log : opened.log = ctx.log) {step : TilemapStep} (spares : step.Spares graph grid)
    (same : step = paintTilemap opened graph grid spec (layerName spec index) asset sliced) :
    step.Outcome ctx locals globals spec graph grid index := by
  have named := tileset_sliceAtlas supplies.cut
  have registers := paintTilemap_registers opened graph spec (layerName spec index) asset sliced grid
  obtain ⟨layer, entity, made, last, found, name, holds⟩ :=
    paintTilemap_layer opened graph spec (layerName spec index) asset sliced grid
  rw [← same] at registers made last found
  unfold TilemapStep.Outcome
  rw [made]
  refine ⟨last, ⟨tileset, asset, sliced, entity, _, _, supplies, found, name, ?_,
    paintGrid_arePainted .., paintGrid_areUnknown .., ?_⟩, spares, ?_⟩
  · rw [holds, ← named]
    rfl
  · rw [registers, Context.log_registerSortingLayer,
      recorded_eq_paintedFaults supplies.cut named, ← log]
    exact log_recordAll opened _
  · rw [registers]
    exact tables_registerSortingLayer (c := opened.recordAll _) tables draws _

/-- A tilemap is skipped with one fault, or it is painted. -/
theorem buildTilemap_outcome (ctx : Context) (locals globals : List Tileset) (spec : Tilemap)
    (graph : Graph) (grid : Option EntityId) (index : Nat) :
    (buildTilemap ctx graph grid spec index (locals ++ globals)).Outcome ctx locals globals spec
      graph grid index := by
  have spares := buildTilemap_spares ctx graph grid spec index (locals ++ globals)
  generalize built : buildTilemap ctx graph grid spec index (locals ++ globals) = step at spares ⊢
  unfold buildTilemap at built
  extract_lets name at built
  split at built
  case h_1 absent =>
    subst built
    exact ⟨rfl, rfl, rfl, _, .unknown (find?_eq_none_iff.mp absent), rfl⟩
  case h_2 tileset found =>
    have meant := find?_append_eq_some_iff.mp found
    rcases importAsset_cases ctx tileset.image name "tileset.image" with
      ⟨fault, opened, failed, result, tables, log⟩ |
        ⟨asset, opened, imported, result, tables, draws, log, units⟩
    · rw [result] at built
      subst built
      exact ⟨rfl, rfl, tables, _, .unusable tileset fault meant failed, log⟩
    · rw [result] at built
      dsimp only at built
      rw [units] at built
      split at built
      case h_1 fault failed =>
        subst built
        refine ⟨rfl, rfl, tables, _, .uncut tileset asset fault meant imported failed, ?_⟩
        rw [← log]
        rfl
      case h_2 sliced cut =>
        exact paintTilemap_outcome ⟨meant, imported, cut⟩ tables draws log spares built.symm

end

/-! ## All tilemaps of a scene -/

/-- A run over tilemaps, each of which is skipped or painted. -/
inductive TilemapRun (locals globals : List Tileset) :
    Context → Graph → Option EntityId → Nat → List Tilemap → Context × Graph → Prop where
  | done (ctx : Context) (graph : Graph) (grid : Option EntityId) (index : Nat) :
      TilemapRun locals globals ctx graph grid index [] (ctx, graph)
  | next {ctx : Context} {graph : Graph} {grid : Option EntityId} {index : Nat} {spec : Tilemap}
      {rest : List Tilemap} {last : Context × Graph} (step : TilemapStep)
      (outcome : step.Outcome ctx locals globals spec graph grid index)
      (further : TilemapRun locals globals step.context step.graph step.grid (index + 1) rest last) :
      TilemapRun locals globals ctx graph grid index (spec :: rest) last

theorem buildTilemaps_run (locals globals : List Tileset) (ctx : Context) (graph : Graph)
    (grid : Option EntityId) (index : Nat) (specs : List Tilemap) :
    TilemapRun locals globals ctx graph grid index specs
      (buildTilemaps (locals ++ globals) ctx graph grid index specs) := by
  induction specs generalizing ctx graph grid index with
  | nil => exact .done ctx graph grid index
  | cons spec rest ih =>
      exact .next _ (buildTilemap_outcome ctx locals globals spec graph grid index) (ih ..)

/-- Over every graph and with whatever tilesets, a tilemap is skipped with one fault or it is
painted; and in a scene this is what happens to one tilemap after the other, with the tilesets of the scene
before those of the game. -/
theorem tilemaps_skipped_or_painted :
    (∀ ctx locals globals spec graph grid index,
      (buildTilemap ctx graph grid spec index (locals ++ globals)).Outcome ctx locals globals spec
        graph grid index) ∧
    ∀ ctx (scene : Document.Scene) gameTilesets,
      TilemapRun scene.tilesets gameTilesets (entityStep ctx scene).1 (settledGraph ctx scene) none 0
        scene.tilemaps (tilemapStep ctx scene gameTilesets) :=
  ⟨buildTilemap_outcome, fun _ scene gameTilesets =>
    buildTilemaps_run scene.tilesets gameTilesets _ _ none 0 scene.tilemaps⟩

end GameScenes.Build
