import GameScenes.Proofs.Tiles.Numbering

/-!
# The names of the cells of an atlas

A name stands for the last declared tile of that name that lies inside the atlas, or else for the
last cell of which it is the automatic name, or else for nothing.  As long as the numbers of the
cells fit into a word, no two cells have one automatic name (`sliceAtlas_names`); in a larger atlas
cells share names, and only the last one of those that share a name can be called by it
(`sliceAtlas_numbers`).  Tiles that lie outside are listed and count for nothing else.
-/

set_option autoImplicit false

namespace GameScenes.Tiles

open Document (Tile Tileset)

/-! ## Declared tiles -/

namespace Atlas

/-- The cell in which a tile lies, if the atlas goes on as far. -/
def cellOf (atlas : Atlas) (tile : Tile) : AtlasCell :=
  cellOfTile atlas.tileWidth atlas.tileHeight tile

/-- Whether a tile lies inside an atlas. -/
def holds (atlas : Atlas) (tile : Tile) : Bool :=
  (atlas.cellOf tile).isInside atlas.columns atlas.rows

/-- The tiles of a name that lie inside an atlas. -/
def namesakes (atlas : Atlas) (tiles : List Tile) (name : String) : List Tile :=
  tiles.filter fun tile => atlas.holds tile && tile.name == name

end Atlas

/-- Dividing the declared tiles by their cells divides the tiles. -/
theorem partition_tiles (tileWidth tileHeight columns rows : UInt32) (tiles : List Tile) :
    (tiles.map fun tile => (tile.name, cellOfTile tileWidth tileHeight tile)).partition
        (fun entry => entry.2.isInside columns rows) =
      ((tiles.filter fun tile => (cellOfTile tileWidth tileHeight tile).isInside columns rows).map
          fun tile => (tile.name, cellOfTile tileWidth tileHeight tile),
        (tiles.filter fun tile => !(cellOfTile tileWidth tileHeight tile).isInside columns rows).map
          fun tile => (tile.name, cellOfTile tileWidth tileHeight tile)) := by
  rw [List.partition_eq_filter_filter, List.filter_map, List.filter_map]
  rfl

/-- What cutting an image comes to. -/
structure IsSlicing (tileset : Tileset) (imageSize : UInt32 × UInt32) (sliced : SlicedAtlas) :
    Prop where
  tileWidth : sliced.atlas.tileWidth = tileset.tilePixelSize.1
  tileHeight : sliced.atlas.tileHeight = tileset.tilePixelSize.2
  columns : sliced.atlas.columns = imageSize.1 / sliced.atlas.tileWidth
  rows : sliced.atlas.rows = imageSize.2 / sliced.atlas.tileHeight
  names : sliced.atlas.names =
    nameCells
      (nameCells Std.HashMap.emptyWithCapacity
        (automaticCells tileset.name sliced.atlas.columns sliced.atlas.rows))
      ((tileset.tiles.filter sliced.atlas.holds).map fun tile =>
        (tile.name, sliced.atlas.cellOf tile))
  outOfRange : sliced.outOfRange =
    (tileset.tiles.filter fun tile => !sliced.atlas.holds tile).map (·.name)

theorem isSlicing_of_sliceAtlas {tileset : Tileset} {imageSize : UInt32 × UInt32} {usual : Float32}
    {sliced : SlicedAtlas} (cut : sliceAtlas tileset imageSize usual = .ok sliced) :
    IsSlicing tileset imageSize sliced := by
  unfold sliceAtlas at cut
  dsimp only at cut
  rw [partition_tiles] at cut
  split at cut
  · cases cut
  · split at cut
    · cases cut
    · cases cut
      exact ⟨rfl, rfl, rfl, rfl, rfl, List.map_map⟩

/-- Tiles outside of an atlas count for nothing: without them it is the same. -/
theorem sliceAtlas_filter {tileset : Tileset} {imageSize : UInt32 × UInt32} {usual : Float32}
    {sliced : SlicedAtlas} (cut : sliceAtlas tileset imageSize usual = .ok sliced) :
    sliceAtlas { tileset with tiles := tileset.tiles.filter sliced.atlas.holds } imageSize usual =
      .ok { sliced with outOfRange := [] } := by
  have sameSize : ({ tileset with
      tiles := tileset.tiles.filter sliced.atlas.holds } : Tileset).tilePixelSize =
        tileset.tilePixelSize := rfl
  unfold sliceAtlas at cut ⊢
  rw [sameSize]
  dsimp only at cut ⊢
  rw [partition_tiles] at cut ⊢
  rw [List.filter_filter, List.filter_filter]
  split at cut
  · cases cut
  · rw [if_neg ‹_›]
    split at cut
    · cases cut
    · rw [if_neg ‹_›]
      cases cut
      simp only [Atlas.holds, Atlas.cellOf, Bool.and_self, Bool.not_and_self, List.filter_false,
        List.map_nil]
      rfl

/-! ## What names stand for -/

namespace IsSlicing

variable {tileset : Tileset} {imageSize : UInt32 × UInt32} {sliced : SlicedAtlas}

/-- Declared names win over automatic ones. -/
theorem cell?_eq (slicing : IsSlicing tileset imageSize sliced) (name : String) :
    sliced.atlas.cell? name =
      ((sliced.atlas.namesakes tileset.tiles name).getLast?.map sliced.atlas.cellOf).or
        (nameCells Std.HashMap.emptyWithCapacity
          (automaticCells tileset.name sliced.atlas.columns sliced.atlas.rows))[name]? := by
  have declared : (((tileset.tiles.filter sliced.atlas.holds).map fun tile =>
      (tile.name, sliced.atlas.cellOf tile)).filter (·.1 == name)) =
        (sliced.atlas.namesakes tileset.tiles name).map fun tile =>
          (tile.name, sliced.atlas.cellOf tile) := by
    rw [List.filter_map, List.filter_filter, Atlas.namesakes]
    refine congrArg (List.map _) (List.filter_congr fun tile _ => Bool.and_comm _ _)
  rw [Atlas.cell?, slicing.names, getElem?_nameCells, declared, List.getLast?_map, Option.map_map]
  rfl

/-- What a name stands for in an atlas of any size. -/
theorem cell?_eq_some_iff_last (slicing : IsSlicing tileset imageSize sliced) (name : String)
    (cell : AtlasCell) :
    sliced.atlas.cell? name = some cell ↔
      match (sliced.atlas.namesakes tileset.tiles name).getLast? with
      | some tile => cell = sliced.atlas.cellOf tile
      | none =>
          cell ∈ atlasCells sliced.atlas.columns sliced.atlas.rows ∧
            name = cell.automaticName tileset.name sliced.atlas.columns ∧
            sliced.atlas.columns.toNat * sliced.atlas.rows.toNat ≤
              cell.place sliced.atlas.columns + 2 ^ 32 := by
  rw [slicing.cell?_eq]
  cases (sliced.atlas.namesakes tileset.tiles name).getLast? with
  | some tile => simp [eq_comm]
  | none => rw [Option.map_none, Option.none_or, getElem?_automaticCells]

theorem cell?_eq_some_iff (slicing : IsSlicing tileset imageSize sliced)
    (small : sliced.atlas.columns.toNat * sliced.atlas.rows.toNat ≤ 2 ^ 32) (name : String)
    (cell : AtlasCell) :
    sliced.atlas.cell? name = some cell ↔
      match (sliced.atlas.namesakes tileset.tiles name).getLast? with
      | some tile => cell = sliced.atlas.cellOf tile
      | none =>
          ∃ number < sliced.atlas.columns.toNat * sliced.atlas.rows.toNat,
            name = automaticName tileset.name number ∧
              cell.HasNumber sliced.atlas.columns number := by
  rw [slicing.cell?_eq_some_iff_last]
  cases (sliced.atlas.namesakes tileset.tiles name).getLast? with
  | some tile => rfl
  | none => exact isLast_iff_hasNumber tileset.name small name cell

theorem inside_of_cell? (slicing : IsSlicing tileset imageSize sliced) {name : String}
    {cell : AtlasCell} (found : sliced.atlas.cell? name = some cell) :
    cell.col < sliced.atlas.columns ∧ cell.row < sliced.atlas.rows := by
  rw [slicing.cell?_eq_some_iff_last] at found
  cases last : (sliced.atlas.namesakes tileset.tiles name).getLast? with
  | some tile =>
      rw [last] at found
      have held := (List.mem_filter.mp (List.mem_of_getLast? last)).2
      simp only [Atlas.holds, AtlasCell.isInside, Bool.and_eq_true, decide_eq_true_eq] at held
      rw [found]
      exact held.1
  | none =>
      rw [last] at found
      exact (mem_atlasCells_iff _ _ cell).mp found.1

end IsSlicing

/-- In an atlas whose cells have numbers of a word, a name stands for the cell of the last declared
tile of that name inside the atlas, or else for the cell of which it is the automatic name.  All
these cells lie inside the atlas; the tiles outside of it are listed in their order, and without
them the atlas is the same. -/
theorem sliceAtlas_names {tileset : Tileset} {imageSize : UInt32 × UInt32} {usual : Float32}
    {sliced : SlicedAtlas} (cut : sliceAtlas tileset imageSize usual = .ok sliced)
    (small : sliced.atlas.columns.toNat * sliced.atlas.rows.toNat ≤ 2 ^ 32) :
    (sliced.atlas.columns = imageSize.1 / tileset.tilePixelSize.1 ∧
      sliced.atlas.rows = imageSize.2 / tileset.tilePixelSize.2 ∧
      ∀ tile, sliced.atlas.cellOf tile =
        ⟨tile.x / tileset.tilePixelSize.1, tile.y / tileset.tilePixelSize.2⟩) ∧
      (∀ name cell, sliced.atlas.cell? name = some cell ↔
        match (sliced.atlas.namesakes tileset.tiles name).getLast? with
        | some tile => cell = sliced.atlas.cellOf tile
        | none =>
            ∃ number < sliced.atlas.columns.toNat * sliced.atlas.rows.toNat,
              name = tileset.name ++ "_" ++ Number.natText number ∧
                cell.col.toNat = number % sliced.atlas.columns.toNat ∧
                cell.row.toNat = number / sliced.atlas.columns.toNat) ∧
      (∀ name cell, sliced.atlas.cell? name = some cell →
        cell.col < sliced.atlas.columns ∧ cell.row < sliced.atlas.rows) ∧
      sliced.outOfRange =
        (tileset.tiles.filter fun tile => !sliced.atlas.holds tile).map (·.name) ∧
      sliceAtlas { tileset with tiles := tileset.tiles.filter sliced.atlas.holds } imageSize usual =
        .ok { sliced with outOfRange := [] } := by
  have slicing := isSlicing_of_sliceAtlas cut
  refine ⟨⟨?_, ?_, fun tile => ?_⟩, fun name cell => slicing.cell?_eq_some_iff small name cell,
    fun name cell => slicing.inside_of_cell?, slicing.outOfRange, sliceAtlas_filter cut⟩
  · rw [slicing.columns, slicing.tileWidth]
  · rw [slicing.rows, slicing.tileHeight]
  · rw [Atlas.cellOf, slicing.tileWidth, slicing.tileHeight]
    rfl

/-- A tileset with a name that is declared twice, one that is automatic as well and a tile outside
of its image. -/
def terrainTileset : Tileset :=
  { Tileset.blank with
    name := "terrain"
    tileSize := some 16
    tiles := [⟨"rock", 16, 0⟩, ⟨"rock", 0, 20⟩, ⟨"far", 40, 0⟩, ⟨"terrain_3", 0, 0⟩] }

theorem sliceAtlas_names_terrain :
    ∃ sliced, sliceAtlas terrainTileset (40, 32) 100 = .ok sliced ∧
      sliced.atlas.columns.toNat * sliced.atlas.rows.toNat ≤ 2 ^ 32 ∧
      sliced.atlas.cell? "rock" = some ⟨0, 1⟩ ∧ sliced.atlas.cell? "terrain_1" = some ⟨1, 0⟩ ∧
      sliced.atlas.cell? "terrain_3" = some ⟨0, 0⟩ ∧ sliced.atlas.cell? "far" = none ∧
      sliced.outOfRange = ["far"] := by
  obtain ⟨sliced, cut⟩ : ∃ sliced, sliceAtlas terrainTileset (40, 32) 100 = .ok sliced := ⟨_, rfl⟩
  have slicing := isSlicing_of_sliceAtlas cut
  have columns : sliced.atlas.columns = 2 := by
    rw [slicing.columns, slicing.tileWidth]
    decide
  have rows : sliced.atlas.rows = 2 := by
    rw [slicing.rows, slicing.tileHeight]
    decide
  have small : sliced.atlas.columns.toNat * sliced.atlas.rows.toNat ≤ 2 ^ 32 := by
    rw [columns, rows]
    decide
  obtain ⟨⟨-, -, place⟩, means, -, outside, -⟩ := sliceAtlas_names cut small
  have held : ∀ tile, sliced.atlas.holds tile = AtlasCell.isInside 2 2 ⟨tile.x / 16, tile.y / 16⟩ := by
    intro tile
    rw [Atlas.holds, place, columns, rows]
    rfl
  have declared : ∀ name, sliced.atlas.namesakes terrainTileset.tiles name =
      terrainTileset.tiles.filter fun tile =>
        AtlasCell.isInside 2 2 ⟨tile.x / 16, tile.y / 16⟩ && tile.name == name := by
    intro name
    simp only [Atlas.namesakes, held]
  refine ⟨sliced, cut, small, ?_, ?_, ?_, ?_, ?_⟩
  · rw [means, declared]
    exact (place ⟨"rock", 0, 20⟩).symm
  · rw [means, declared, columns, rows]
    exact ⟨1, by decide, by decide, by decide, by decide⟩
  · rw [means, declared]
    exact (place ⟨"terrain_3", 0, 0⟩).symm
  · rw [Option.eq_none_iff_forall_ne_some]
    intro cell
    rw [Ne, means, declared]
    rintro ⟨number, -, named, -⟩
    have first : "far".toList.head? = ("terrain" ++ "_" ++ Number.natText number).toList.head? :=
      congrArg (fun s => s.toList.head?) named
    simp [String.toList_append] at first
  · rw [outside]
    simp only [held]
    rfl

/-! ## Atlases with more cells than words -/

/-- Every cell of an atlas has a place that fits into a word, and no two cells have one automatic
name, exactly if there are not more cells than words.  In every atlas two cells have one automatic
name if their places differ by a multiple of the number of words, and a name stands for the cell of
the last declared tile of that name inside the atlas, or else for the last one of the cells that
have it as their automatic name. -/
theorem sliceAtlas_numbers {tileset : Tileset} {imageSize : UInt32 × UInt32} {usual : Float32}
    {sliced : SlicedAtlas} (cut : sliceAtlas tileset imageSize usual = .ok sliced) :
    (sliced.atlas.columns = imageSize.1 / tileset.tilePixelSize.1 ∧
      sliced.atlas.rows = imageSize.2 / tileset.tilePixelSize.2) ∧
      ((∀ cell ∈ atlasCells sliced.atlas.columns sliced.atlas.rows,
          cell.row.toNat * sliced.atlas.columns.toNat + cell.col.toNat < 2 ^ 32) ↔
        sliced.atlas.columns.toNat * sliced.atlas.rows.toNat ≤ 2 ^ 32) ∧
      ((∀ cell ∈ atlasCells sliced.atlas.columns sliced.atlas.rows,
          ∀ other ∈ atlasCells sliced.atlas.columns sliced.atlas.rows,
            cell.automaticName tileset.name sliced.atlas.columns =
              other.automaticName tileset.name sliced.atlas.columns → cell = other) ↔
        sliced.atlas.columns.toNat * sliced.atlas.rows.toNat ≤ 2 ^ 32) ∧
      (∀ cell other : AtlasCell,
        cell.automaticName tileset.name sliced.atlas.columns =
            other.automaticName tileset.name sliced.atlas.columns ↔
          cell.place sliced.atlas.columns % 2 ^ 32 = other.place sliced.atlas.columns % 2 ^ 32) ∧
      ∀ name cell, sliced.atlas.cell? name = some cell ↔
        match (sliced.atlas.namesakes tileset.tiles name).getLast? with
        | some tile => cell = sliced.atlas.cellOf tile
        | none =>
            cell ∈ atlasCells sliced.atlas.columns sliced.atlas.rows ∧
              name = cell.automaticName tileset.name sliced.atlas.columns ∧
              sliced.atlas.columns.toNat * sliced.atlas.rows.toNat ≤
                cell.place sliced.atlas.columns + 2 ^ 32 := by
  have slicing := isSlicing_of_sliceAtlas cut
  refine ⟨⟨?_, ?_⟩, places_fit_iff _ _, automaticNames_distinct_iff _ _ _,
    fun cell other => AtlasCell.automaticName_eq_iff tileset.name, fun name cell =>
      slicing.cell?_eq_some_iff_last name cell⟩
  · rw [slicing.columns, slicing.tileWidth]
  · rw [slicing.rows, slicing.tileHeight]

/-- A tileset of tiles of one pixel. -/
def meadowTileset : Tileset := { Tileset.blank with name := "meadow", tileSize := some 1 }

/-- The size of an image that such tiles cut into one row of cells more than there are words. -/
def meadowSize : UInt32 × UInt32 := (65536, 65537)

theorem sliceAtlas_meadow :
    ∃ sliced, sliceAtlas meadowTileset meadowSize 100 = .ok sliced ∧
      sliced.atlas.columns = 65536 ∧ sliced.atlas.rows = 65537 := by
  obtain ⟨sliced, cut⟩ : ∃ sliced, sliceAtlas meadowTileset meadowSize 100 = .ok sliced := ⟨_, rfl⟩
  have slicing := isSlicing_of_sliceAtlas cut
  refine ⟨sliced, cut, ?_, ?_⟩
  · rw [slicing.columns, slicing.tileWidth]
    decide
  · rw [slicing.rows, slicing.tileHeight]
    decide

/-- In so large an atlas the first name stands for a cell of the last row, and no name for the
first cell. -/
theorem sliceAtlas_numbers_meadow :
    ∃ sliced, sliceAtlas meadowTileset meadowSize 100 = .ok sliced ∧
      sliced.atlas.cell? "meadow_0" = some ⟨0, 65536⟩ ∧
      ∀ name, sliced.atlas.cell? name ≠ some ⟨0, 0⟩ := by
  obtain ⟨sliced, cut, columns, rows⟩ := sliceAtlas_meadow
  obtain ⟨-, -, -, -, means⟩ := sliceAtlas_numbers cut
  have declared : ∀ name, sliced.atlas.namesakes meadowTileset.tiles name = [] := fun _ => rfl
  refine ⟨sliced, cut, ?_, fun name => ?_⟩
  · rw [means, declared, columns, rows]
    refine ⟨(mem_atlasCells_iff _ _ _).mpr ⟨by decide, by decide⟩, ?_, by decide⟩
    rw [AtlasCell.automaticName_eq]
    decide
  · rw [Ne, means, declared, columns, rows]
    rintro ⟨-, -, few⟩
    exact absurd few (by decide)

/-- A place of an atlas may be no word, and two of its cells may share their automatic name. -/
theorem sliceAtlas_shares_names :
    ∃ sliced, sliceAtlas meadowTileset meadowSize 100 = .ok sliced ∧
      (¬ ∀ cell ∈ atlasCells sliced.atlas.columns sliced.atlas.rows,
        cell.row.toNat * sliced.atlas.columns.toNat + cell.col.toNat < 2 ^ 32) ∧
      ¬ ∀ cell ∈ atlasCells sliced.atlas.columns sliced.atlas.rows,
        ∀ other ∈ atlasCells sliced.atlas.columns sliced.atlas.rows,
          cell.automaticName meadowTileset.name sliced.atlas.columns =
            other.automaticName meadowTileset.name sliced.atlas.columns → cell = other := by
  obtain ⟨sliced, cut, columns, rows⟩ := sliceAtlas_meadow
  have first : ⟨0, 0⟩ ∈ atlasCells sliced.atlas.columns sliced.atlas.rows := by
    rw [columns, rows, mem_atlasCells_iff]
    decide
  have lowest : ⟨0, 65536⟩ ∈ atlasCells sliced.atlas.columns sliced.atlas.rows := by
    rw [columns, rows, mem_atlasCells_iff]
    decide
  refine ⟨sliced, cut, fun fits => ?_, fun distinct => ?_⟩
  · have fit := fits _ lowest
    rw [columns] at fit
    exact absurd fit (by decide)
  · have shared : AtlasCell.automaticName meadowTileset.name sliced.atlas.columns ⟨0, 0⟩ =
        AtlasCell.automaticName meadowTileset.name sliced.atlas.columns ⟨0, 65536⟩ := by
      rw [columns, AtlasCell.automaticName_eq_iff]
      decide
    exact absurd (distinct _ first _ lowest shared) (by decide)

end GameScenes.Tiles
