import GameScenes.Tiles.Painting
import Mathlib.Algebra.Ring.Nat
import Mathlib.Data.List.Perm.Basic

/-!
# What a grid paints

Every character of a grid leaves its cell empty, paints the tile of its name into it, or has a name
that the atlas does not know.  A grid paints the cells of the second kind, and only these, row by
row from the bottom, and lists each name of the third kind once with the number of its cells, so that
no character is lost (`paintGrid_exact`).
-/

set_option autoImplicit false

namespace GameScenes.Tiles

open Document (Grid)

/-! ## Characters and names -/

/-- That a grid has a character in a cell.  The last row is that of the cells at the bottom. -/
def Shows (grid : Grid) (cell : Cell) (c : Char) : Prop :=
  ∃ (x y : Nat) (row : String), cell = ⟨x, y⟩ ∧ y < grid.rows.length ∧
    grid.rows[grid.rows.length - 1 - y]? = some row ∧ row.toList[x]? = some c

def characters (grid : Grid) : List Char := grid.rows.flatMap (·.toList)

/-- The name of the tile that a character stands for, or none if it leaves its cell empty.  Of several
entries of the legend under one key the last one counts. -/
def tileName? (grid : Grid) (c : Char) : Option String :=
  match grid.legend.reverse.lookup (String.singleton c) with
  | some entry => entry.filter (· ≠ "")
  | none => if c = grid.emptyChar ∨ c = ' ' then none else some (String.singleton c)

def Mark.name? : Mark → Option String
  | empty => none
  | named name => some name

theorem name?_markOfEntry (entry : Option String) :
    (markOfEntry entry).name? = entry.filter (· ≠ "") := by
  cases entry with
  | none => rfl
  | some name =>
      unfold markOfEntry
      by_cases blank : name = "" <;> simp [blank, Mark.name?, Option.filter]

theorem toList_eq_singleton_iff (key : String) (c : Char) :
    key.toList = [c] ↔ key = String.singleton c := by
  rw [← String.toList_singleton, String.toList_inj]

/-- Among the entries with keys of one character those of a legend are found under their keys. -/
theorem lookup_legendMarks (legend : List (String × Option String)) (c : Char) :
    (legendMarks legend).lookup c = (legend.lookup (String.singleton c)).map markOfEntry := by
  induction legend with
  | nil => rfl
  | cons entry rest ih =>
      obtain ⟨key, value⟩ := entry
      rw [List.lookup_cons]
      by_cases own : key = String.singleton c
      · subst own
        have marks : legendMarks ((String.singleton c, value) :: rest) =
            (c, markOfEntry value) :: legendMarks rest := by
          simp [legendMarks, String.toList_singleton]
        simp [marks]
      · have other : (String.singleton c == key) = false := by simpa using Ne.symm own
        rw [other]
        dsimp only
        rw [← ih]
        match chars : key.toList with
        | [] => simp [legendMarks, chars]
        | [d] =>
            have apart : (c == d) = false := by
              rw [beq_eq_false_iff_ne]
              rintro rfl
              exact own ((toList_eq_singleton_iff key c).mp chars)
            simp [legendMarks, chars, List.lookup_cons, apart]
        | _ :: _ :: _ => simp [legendMarks, chars]

theorem name?_markOf (grid : Grid) (c : Char) :
    (markOf (legendMarks grid.legend) grid.emptyChar c).name? = tileName? grid c := by
  have marks : (legendMarks grid.legend).reverse = legendMarks grid.legend.reverse :=
    List.filterMap_reverse.symm
  unfold markOf tileName?
  rw [marks, lookup_legendMarks]
  cases grid.legend.reverse.lookup (String.singleton c) with
  | some entry => exact name?_markOfEntry entry
  | none =>
      dsimp only [Option.map_none]
      split <;> rfl

/-! ## Cells with names -/

section
variable (mark : Char → Mark)

theorem mem_namedCellsOfRow_iff (x y : Nat) (cs : List Char) (named : NamedCell) :
    named ∈ namedCellsOfRow mark y x cs ↔
      ∃ k c, cs[k]? = some c ∧ named.cell = ⟨(x + k : Nat), y⟩ ∧
        (mark c).name? = some named.name := by
  induction cs generalizing x with
  | nil => simp [namedCellsOfRow]
  | cons first rest ih =>
      have further : named ∈ namedCellsOfRow mark y (x + 1) rest ↔
          ∃ k c, (first :: rest)[k + 1]? = some c ∧ named.cell = ⟨(x + (k + 1) : Nat), y⟩ ∧
            (mark c).name? = some named.name := by
        rw [ih]
        simp only [List.getElem?_cons_succ, Nat.add_assoc, Nat.add_comm 1]
      have cases : (∃ k c, (first :: rest)[k]? = some c ∧ named.cell = ⟨(x + k : Nat), y⟩ ∧
            (mark c).name? = some named.name) ↔
          (named.cell = ⟨x, y⟩ ∧ (mark first).name? = some named.name) ∨
            named ∈ namedCellsOfRow mark y (x + 1) rest := by
        rw [further]
        constructor
        · rintro ⟨_ | k, c, at_k, place⟩
          · cases at_k
            exact .inl place
          · exact .inr ⟨k, c, at_k, place⟩
        · rintro (place | ⟨k, c, at_k, place⟩)
          · exact ⟨0, first, rfl, place⟩
          · exact ⟨k + 1, c, at_k, place⟩
      rw [cases, namedCellsOfRow]
      cases mark first with
      | empty => simp [Mark.name?]
      | named name =>
          obtain ⟨cell, own⟩ := named
          simp [Mark.name?, eq_comm]

theorem map_name_namedCellsOfRow (x y : Nat) (cs : List Char) :
    (namedCellsOfRow mark y x cs).map (·.name) = cs.filterMap fun c => (mark c).name? := by
  induction cs generalizing x with
  | nil => rfl
  | cons first rest ih =>
      rw [namedCellsOfRow]
      cases found : mark first with
      | empty => rw [List.filterMap_cons_none (by rw [found]; rfl), ih]
      | named name => rw [List.filterMap_cons_some (by rw [found]; rfl), List.map_cons, ih]

/-- The order of cells by rows and within a row from the left. -/
def Cell.Before (c d : Cell) : Prop := c.y < d.y ∨ c.y = d.y ∧ c.x < d.x

theorem ordered_namedCellsOfRow (x y : Nat) (cs : List Char) :
    (namedCellsOfRow mark y x cs).Pairwise fun a b => a.cell.Before b.cell := by
  induction cs generalizing x with
  | nil => exact List.Pairwise.nil
  | cons first rest ih =>
      rw [namedCellsOfRow]
      split
      · exact ih (x + 1)
      · refine List.pairwise_cons.mpr ⟨fun named member => ?_, ih (x + 1)⟩
        obtain ⟨k, c, -, place, -⟩ := (mem_namedCellsOfRow_iff mark _ _ _ _).mp member
        rw [place]
        refine .inr ⟨rfl, ?_⟩
        dsimp only
        omega

theorem mem_namedCells_iff (y : Nat) (rows : List String) (named : NamedCell) :
    named ∈ namedCells mark y rows ↔
      ∃ j row k c, rows[j]? = some row ∧ row.toList[k]? = some c ∧
        named.cell = ⟨(k : Nat), (y + j : Nat)⟩ ∧ (mark c).name? = some named.name := by
  induction rows generalizing y with
  | nil => simp [namedCells]
  | cons first rest ih =>
      rw [namedCells, List.mem_append, mem_namedCellsOfRow_iff, ih]
      constructor
      · rintro (⟨k, c, at_k, place, name⟩ | ⟨j, row, k, c, at_j, at_k, place, name⟩)
        · exact ⟨0, first, k, c, rfl, at_k, by simpa using place, name⟩
        · refine ⟨j + 1, row, k, c, at_j, at_k, ?_, name⟩
          rw [place, Nat.add_assoc, Nat.add_comm 1]
      · rintro ⟨_ | j, row, k, c, at_j, at_k, place, name⟩
        · cases at_j
          exact .inl ⟨k, c, at_k, by simpa using place, name⟩
        · refine .inr ⟨j, row, k, c, at_j, at_k, ?_, name⟩
          rw [place, Nat.add_assoc, Nat.add_comm 1]

theorem map_name_namedCells (y : Nat) (rows : List String) :
    (namedCells mark y rows).map (·.name) =
      (rows.flatMap (·.toList)).filterMap fun c => (mark c).name? := by
  induction rows generalizing y with
  | nil => rfl
  | cons first rest ih =>
      rw [namedCells, List.map_append, map_name_namedCellsOfRow, ih, List.flatMap_cons,
        List.filterMap_append]

theorem ordered_namedCells (y : Nat) (rows : List String) :
    (namedCells mark y rows).Pairwise fun a b => a.cell.Before b.cell := by
  induction rows generalizing y with
  | nil => exact List.Pairwise.nil
  | cons first rest ih =>
      refine List.pairwise_append.mpr
        ⟨ordered_namedCellsOfRow mark 0 y first.toList, ih (y + 1), ?_⟩
      intro a here b there
      obtain ⟨k, c, -, place, -⟩ := (mem_namedCellsOfRow_iff mark _ _ _ _).mp here
      obtain ⟨j, row, l, d, -, -, other, -⟩ := (mem_namedCells_iff mark _ _ _).mp there
      rw [place, other]
      refine .inl ?_
      dsimp only
      omega

end

/-! ## Counted names -/

theorem sum_countRuns (names : List String) :
    ((countRuns names).map (·.cells)).sum = names.length := by
  induction names with
  | nil => rfl
  | cons name rest ih =>
      rw [countRuns]
      cases runs : countRuns rest with
      | nil =>
          rw [runs] at ih
          simp [← ih]
      | cons run more =>
          rw [runs] at ih
          rw [List.length_cons, ← ih]
          dsimp only
          split
          · simp
            omega
          · simp
            omega

/-- What the runs of a list say about it: whose they are, and how long. -/
structure CountsRuns (names : List String) (runs : List UnknownTile) : Prop where
  ordered : runs.Pairwise fun a b => a.name < b.name
  count : ∀ run ∈ runs, run.cells = names.count run.name ∧ 0 < run.cells
  covers : ∀ name ∈ names, ∃ run ∈ runs, run.name = name

namespace CountsRuns

variable {names : List String} {name : String}

theorem mem_of_mem {runs : List UnknownTile} (spec : CountsRuns names runs) {run : UnknownTile}
    (inside : run ∈ runs) : run.name ∈ names := by
  obtain ⟨count, positive⟩ := spec.count run inside
  exact List.count_pos_iff.mp (count ▸ positive)

/-- One more name in front of its run makes the run longer. -/
theorem lengthen {cells : Nat} {more : List UnknownTile}
    (spec : CountsRuns names (⟨name, cells⟩ :: more)) :
    CountsRuns (name :: names) (⟨name, cells + 1⟩ :: more) := by
  obtain ⟨least, ordered⟩ := List.pairwise_cons.mp spec.ordered
  refine ⟨List.pairwise_cons.mpr ⟨least, ordered⟩, ?_, ?_⟩
  · intro other inside
    rcases List.mem_cons.mp inside with rfl | later
    · obtain ⟨count, -⟩ := spec.count _ (List.mem_cons_self ..)
      refine ⟨?_, Nat.succ_pos _⟩
      rw [List.count_cons_self]
      exact congrArg (· + 1) count
    · have apart : name ≠ other.name := fun same => String.lt_irrefl _ (same ▸ least other later)
      rw [List.count_cons_of_ne apart]
      exact spec.count other (List.mem_cons_of_mem _ later)
  · intro other inside
    rcases List.mem_cons.mp inside with rfl | later
    · exact ⟨_, List.mem_cons_self .., rfl⟩
    · obtain ⟨run, found, rfl⟩ := spec.covers other later
      rcases List.mem_cons.mp found with rfl | after
      · exact ⟨_, List.mem_cons_self .., rfl⟩
      · exact ⟨run, List.mem_cons_of_mem _ after, rfl⟩

/-- A name before all runs starts a run of its own. -/
theorem start {runs : List UnknownTile} (spec : CountsRuns names runs)
    (before : ∀ run ∈ runs, name < run.name) :
    CountsRuns (name :: names) (⟨name, 1⟩ :: runs) := by
  have new : name ∉ names := by
    intro inside
    obtain ⟨run, found, same⟩ := spec.covers name inside
    exact String.lt_irrefl _ (same ▸ before run found)
  refine ⟨List.pairwise_cons.mpr ⟨before, spec.ordered⟩, ?_, ?_⟩
  · intro other inside
    rcases List.mem_cons.mp inside with rfl | later
    · exact ⟨by rw [List.count_cons_self, List.count_eq_zero.mpr new], Nat.one_pos⟩
    · have apart : name ≠ other.name := fun same => String.lt_irrefl _ (same ▸ before other later)
      rw [List.count_cons_of_ne apart]
      exact spec.count other later
  · intro other inside
    rcases List.mem_cons.mp inside with rfl | later
    · exact ⟨_, List.mem_cons_self .., rfl⟩
    · obtain ⟨run, found, same⟩ := spec.covers other later
      exact ⟨run, List.mem_cons_of_mem _ found, same⟩

end CountsRuns

/-- In a list in ascending order equal names stand together, so that each has one run. -/
theorem countsRuns_countRuns {names : List String} (sorted : names.Pairwise (· ≤ ·)) :
    CountsRuns names (countRuns names) := by
  induction names with
  | nil => exact ⟨List.Pairwise.nil, by simp [countRuns], by simp⟩
  | cons name rest ih =>
      obtain ⟨above, sortedRest⟩ := List.pairwise_cons.mp sorted
      have spec := ih sortedRest
      rw [countRuns]
      cases runs : countRuns rest with
      | nil =>
          rw [runs] at spec
          exact spec.start (by simp)
      | cons run more =>
          rw [runs] at spec
          dsimp only
          split
          next same =>
            subst same
            exact spec.lengthen
          next different =>
            have least := above run.name (spec.mem_of_mem (List.mem_cons_self ..))
            have before : name < run.name := Std.lt_of_le_of_ne least (Ne.symm different)
            refine spec.start fun other inside => ?_
            rcases List.mem_cons.mp inside with rfl | later
            · exact before
            · exact String.lt_trans before ((List.pairwise_cons.mp spec.ordered).1 other later)

theorem sorted_mergeSort (names : List String) :
    (names.mergeSort fun a b => !decide (b < a)).Pairwise (· ≤ ·) := by
  have trans : ∀ a b c : String, (!decide (b < a)) = true → (!decide (c < b)) = true →
      (!decide (c < a)) = true := by
    intro a b c
    simp only [Bool.not_eq_true', decide_eq_false_iff_not, String.not_lt]
    exact String.le_trans
  have total : ∀ a b : String, (!decide (b < a) || !decide (a < b)) = true := by
    intro a b
    simp only [Bool.or_eq_true, Bool.not_eq_true', decide_eq_false_iff_not, String.not_lt]
    exact String.le_total a b
  refine (List.pairwise_mergeSort trans total names).imp fun le => ?_
  simpa only [Bool.not_eq_true', decide_eq_false_iff_not, String.not_lt] using le

/-- Every name of a list is counted once, in ascending order. -/
theorem countsRuns_countNames (names : List String) : CountsRuns names (countNames names) := by
  have perm := List.mergeSort_perm names fun a b => !decide (b < a)
  have spec := countsRuns_countRuns (sorted_mergeSort names)
  refine ⟨spec.ordered, fun run inside => ?_, fun name inside => ?_⟩
  · rw [← perm.count_eq]
    exact spec.count run inside
  · exact spec.covers name (perm.mem_iff.mpr inside)

theorem mem_countNames_iff (names : List String) (run : UnknownTile) :
    run ∈ countNames names ↔ 0 < run.cells ∧ run.cells = names.count run.name := by
  have spec := countsRuns_countNames names
  constructor
  · intro inside
    exact (spec.count run inside).symm
  · rintro ⟨positive, count⟩
    obtain ⟨other, found, same⟩ := spec.covers run.name (List.count_pos_iff.mp (count ▸ positive))
    have equal : run = other := by
      obtain ⟨name, cells⟩ := run
      obtain ⟨otherName, otherCells⟩ := other
      have otherCount := (spec.count _ found).1
      dsimp only at same count otherCount
      subst same
      rw [count, otherCount]
    exact equal ▸ found

theorem sum_countNames (names : List String) :
    ((countNames names).map (·.cells)).sum = names.length := by
  rw [countNames, sum_countRuns, List.length_mergeSort]

/-! ## Painted grids -/

/-- The cells of a grid that are not meant to be empty. -/
def gridCells (grid : Grid) : List NamedCell :=
  namedCells (markOf (legendMarks grid.legend) grid.emptyChar) 0 grid.rows.reverse

theorem mem_gridCells_iff (grid : Grid) (named : NamedCell) :
    named ∈ gridCells grid ↔
      ∃ c, Shows grid named.cell c ∧ tileName? grid c = some named.name := by
  rw [gridCells, mem_namedCells_iff]
  constructor
  · rintro ⟨y, row, x, c, at_y, at_x, place, name⟩
    obtain ⟨inside, -⟩ := List.getElem?_eq_some_iff.mp at_y
    rw [List.length_reverse] at inside
    rw [List.getElem?_reverse inside] at at_y
    rw [name?_markOf] at name
    rw [Nat.zero_add] at place
    exact ⟨c, ⟨x, y, row, place, inside, at_y, at_x⟩, name⟩
  · rintro ⟨c, ⟨x, y, row, place, inside, at_y, at_x⟩, name⟩
    refine ⟨y, row, x, c, ?_, at_x, ?_, ?_⟩
    · rw [List.getElem?_reverse inside, at_y]
    · rw [place, Nat.zero_add]
    · rw [name?_markOf, name]

/-- The names of the cells are those of the characters, in another order. -/
theorem map_name_gridCells (grid : Grid) :
    ((gridCells grid).map (·.name)).Perm ((characters grid).filterMap (tileName? grid)) := by
  rw [gridCells, map_name_namedCells]
  simp only [name?_markOf]
  exact ((List.reverse_perm grid.rows).flatMap_right _).filterMap _

/-- The names that the atlas does not know, one for each of their cells. -/
def unknownNames (grid : Grid) (atlas : Atlas) : List String :=
  ((gridCells grid).filter fun named => (atlas.cell? named.name).isNone).map (·.name)

theorem unknown_paintGrid (grid : Grid) (atlas : Atlas) :
    (paintGrid grid atlas).unknown = countNames (unknownNames grid atlas) := rfl

theorem tiles_paintGrid (grid : Grid) (atlas : Atlas) :
    (paintGrid grid atlas).tiles = (gridCells grid).filterMap (paint? atlas) := rfl

theorem mem_tiles_iff (grid : Grid) (atlas : Atlas) (tile : PaintedTile) :
    tile ∈ (paintGrid grid atlas).tiles ↔
      ∃ c, Shows grid tile.cell c ∧ tileName? grid c = some tile.tile ∧
        atlas.cell? tile.tile = some tile.atlas := by
  rw [tiles_paintGrid, List.mem_filterMap]
  constructor
  · rintro ⟨named, member, painted⟩
    obtain ⟨cell, found, rfl⟩ := Option.map_eq_some_iff.mp painted
    obtain ⟨c, shown, name⟩ := (mem_gridCells_iff grid named).mp member
    exact ⟨c, shown, name, found⟩
  · rintro ⟨c, shown, name, found⟩
    refine ⟨⟨tile.cell, tile.tile⟩, (mem_gridCells_iff grid _).mpr ⟨c, shown, name⟩, ?_⟩
    simp only [paint?, found, Option.map_some]

theorem ordered_tiles (grid : Grid) (atlas : Atlas) :
    (paintGrid grid atlas).tiles.Pairwise fun a b => a.cell.Before b.cell := by
  rw [tiles_paintGrid, List.pairwise_filterMap]
  refine (ordered_namedCells _ 0 grid.rows.reverse).imp ?_
  intro named other before tile painted second alsoPainted
  obtain ⟨-, -, rfl⟩ := Option.map_eq_some_iff.mp painted
  obtain ⟨-, -, rfl⟩ := Option.map_eq_some_iff.mp alsoPainted
  exact before

theorem count_unknownNames {grid : Grid} {atlas : Atlas} {name : String}
    (missing : atlas.cell? name = none) :
    (unknownNames grid atlas).count name =
      (characters grid).countP fun c => tileName? grid c == some name := by
  have names : unknownNames grid atlas =
      ((gridCells grid).map (·.name)).filter fun name => (atlas.cell? name).isNone := by
    rw [List.filter_map]
    rfl
  rw [names, List.count_filter (by simp [missing]), (map_name_gridCells grid).count_eq,
    List.count_filterMap]

theorem mem_unknown_iff (grid : Grid) (atlas : Atlas) (entry : UnknownTile) :
    entry ∈ (paintGrid grid atlas).unknown ↔ atlas.cell? entry.name = none ∧ 0 < entry.cells ∧
      entry.cells = (characters grid).countP fun c => tileName? grid c == some entry.name := by
  rw [unknown_paintGrid, mem_countNames_iff]
  constructor
  · rintro ⟨positive, count⟩
    have member : entry.name ∈ unknownNames grid atlas :=
      List.count_pos_iff.mp (count ▸ positive)
    obtain ⟨named, inside, same⟩ := List.mem_map.mp member
    have missing : atlas.cell? entry.name = none := by
      rw [← same]
      simpa using (List.mem_filter.mp inside).2
    exact ⟨missing, positive, count.trans (count_unknownNames missing)⟩
  · rintro ⟨missing, positive, count⟩
    exact ⟨positive, count.trans (count_unknownNames missing).symm⟩

/-- The elements to which a function gives something and those to which it gives nothing. -/
theorem length_eq_countP_isSome_add {α β : Type} (f : α → Option β) (l : List α) :
    l.length = l.countP (fun a => (f a).isSome) + l.countP (fun a => (f a).isNone) := by
  rw [List.length_eq_countP_add_countP fun a => (f a).isSome]
  refine congrArg _ (List.countP_congr fun a _ => ?_)
  cases f a <;> simp

theorem length_characters (grid : Grid) (atlas : Atlas) :
    (characters grid).length = (paintGrid grid atlas).tiles.length +
      (characters grid).countP (fun c => (tileName? grid c).isNone) +
      ((paintGrid grid atlas).unknown.map (·.cells)).sum := by
  have tiles : (paintGrid grid atlas).tiles.length =
      (gridCells grid).countP fun named => (atlas.cell? named.name).isSome := by
    rw [tiles_paintGrid, List.length_filterMap_eq_countP]
    simp only [paint?, Option.isSome_map]
  have unknown : ((paintGrid grid atlas).unknown.map (·.cells)).sum =
      (gridCells grid).countP fun named => (atlas.cell? named.name).isNone := by
    rw [unknown_paintGrid, sum_countNames, unknownNames, List.length_map,
      List.countP_eq_length_filter]
  have named : (gridCells grid).length =
      (characters grid).countP fun c => (tileName? grid c).isSome := by
    rw [← List.length_filterMap_eq_countP, ← (map_name_gridCells grid).length_eq, List.length_map]
  have cells := length_eq_countP_isSome_add (fun named => atlas.cell? named.name) (gridCells grid)
  have all := length_eq_countP_isSome_add (tileName? grid) (characters grid)
  rw [tiles, unknown]
  omega

/-- A grid paints exactly the cells whose characters have a name that the atlas knows, in their order
and each once.  Every name that it does not know is listed once, in ascending order and with the
number of its cells, so that painted, empty and unknown cells are all there are; and of the keys of
the legend those that are not one character are listed. -/
theorem paintGrid_exact (grid : Grid) (atlas : Atlas) :
    (∀ tile, tile ∈ (paintGrid grid atlas).tiles ↔
        ∃ c, Shows grid tile.cell c ∧ tileName? grid c = some tile.tile ∧
          atlas.cell? tile.tile = some tile.atlas) ∧
      ((paintGrid grid atlas).tiles.Pairwise fun a b => a.cell.Before b.cell) ∧
      (∀ entry, entry ∈ (paintGrid grid atlas).unknown ↔
        atlas.cell? entry.name = none ∧ 0 < entry.cells ∧
          entry.cells = (characters grid).countP fun c => tileName? grid c == some entry.name) ∧
      ((paintGrid grid atlas).unknown.Pairwise fun a b => a.name < b.name) ∧
      ((characters grid).length = (paintGrid grid atlas).tiles.length +
        (characters grid).countP (fun c => (tileName? grid c).isNone) +
        ((paintGrid grid atlas).unknown.map (·.cells)).sum) ∧
      (paintGrid grid atlas).invalidLegendKeys.Sublist (grid.legend.map (·.1)) ∧
      ∀ key, key ∈ (paintGrid grid atlas).invalidLegendKeys ↔
        key ∈ grid.legend.map (·.1) ∧ key.toList.length ≠ 1 := by
  refine ⟨mem_tiles_iff grid atlas, ordered_tiles grid atlas, mem_unknown_iff grid atlas,
    (countsRuns_countNames _).ordered, length_characters grid atlas, List.filter_sublist, ?_⟩
  intro key
  exact List.mem_filter.trans (by simp)

end GameScenes.Tiles
