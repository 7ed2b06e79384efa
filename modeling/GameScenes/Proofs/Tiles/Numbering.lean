import GameScenes.Proofs.Json.Lexemes
import GameScenes.Tiles.Atlas
import Mathlib.Algebra.Ring.Nat
import Mathlib.Data.List.Basic

/-!
# The numbers of the cells of an atlas

A cell has a place in the order along the rows, and its number is what a word holds of the place.
Places tell the cells of an atlas apart.  Numbers, and with them automatic names, do so exactly if
there is a word for every place (`automaticNames_distinct_iff`); in a larger atlas a name stands
for the last one of the cells that share it (`getElem?_automaticCells`).
-/

set_option autoImplicit false

namespace GameScenes.Number

theorem natText_injective {m n : Nat} (same : natText m = natText n) : m = n := by
  have digits : digitsOf m = digitsOf n := String.ofList_inj.mp same
  rw [← natOfDigits_digitsOf m, digits, natOfDigits_digitsOf]

end GameScenes.Number

namespace GameScenes.Tiles

/-! ## Names put into a map -/

/-- The cell that a name stands for after names were put into a map: that of the last one. -/
theorem getElem?_nameCells (names : Std.HashMap String AtlasCell)
    (named : List (String × AtlasCell)) (name : String) :
    (nameCells names named)[name]? =
      ((named.filter (·.1 == name)).getLast?.map (·.2)).or names[name]? := by
  induction named generalizing names with
  | nil => rfl
  | cons first rest ih =>
      obtain ⟨key, cell⟩ := first
      have step : nameCells names ((key, cell) :: rest) = nameCells (names.insert key cell) rest :=
        rfl
      rw [step, ih, Std.HashMap.getElem?_insert]
      by_cases same : key = name
      · subst same
        rw [List.filter_cons_of_pos (by simp), List.getLast?_cons]
        cases (rest.filter (·.1 == key)).getLast? <;> simp
      · rw [List.filter_cons_of_neg (by simpa using same), if_neg (by simpa using same)]

/-- The last item of a list in which a size ascends is the one of the greatest size. -/
theorem getLast?_of_ascending {α : Type} {size : α → Nat} {items : List α}
    (ascending : items.Pairwise fun x y => size x < size y) (last : α) :
    items.getLast? = some last ↔ last ∈ items ∧ ∀ x ∈ items, size x ≤ size last := by
  rw [List.getLast?_eq_some_iff]
  constructor
  · rintro ⟨before, rfl⟩
    obtain ⟨-, -, below⟩ := List.pairwise_append.mp ascending
    refine ⟨List.mem_append_right _ (List.mem_singleton_self last), fun x member => ?_⟩
    rcases List.mem_append.mp member with early | late
    · exact Nat.le_of_lt (below x early last (List.mem_singleton_self last))
    · exact Nat.le_of_eq (congrArg size (List.mem_singleton.mp late))
  · rintro ⟨member, greatest⟩
    obtain ⟨before, after, rfl⟩ := List.append_of_mem member
    cases after with
    | nil => exact ⟨before, rfl⟩
    | cons next rest =>
        obtain ⟨-, tail, -⟩ := List.pairwise_append.mp ascending
        have above : size last < size next := List.rel_of_pairwise_cons tail List.mem_cons_self
        have low := greatest next (by simp)
        exact absurd above (Nat.not_lt.mpr low)

/-! ## Places -/

theorem toNat_ofNat_below {n : Nat} {bound : UInt32} (below : n < bound.toNat) :
    (UInt32.ofNat n).toNat = n :=
  UInt32.toNat_ofNat_of_lt' (Nat.lt_trans below bound.toNat_lt)

theorem mem_atlasCells_iff (columns rows : UInt32) (cell : AtlasCell) :
    cell ∈ atlasCells columns rows ↔ cell.col < columns ∧ cell.row < rows := by
  simp only [atlasCells, List.mem_flatMap, List.mem_map, List.mem_range, UInt32.lt_iff_toNat_lt]
  constructor
  · rintro ⟨row, below, col, left, rfl⟩
    rw [toNat_ofNat_below left, toNat_ofNat_below below]
    exact ⟨left, below⟩
  · rintro ⟨left, below⟩
    exact ⟨cell.row.toNat, below, cell.col.toNat, left, by simp⟩

/-- What lies in one row comes before all that lies in the rows below. -/
theorem along_rows {row next columns col : Nat} (left : col < columns) (below : row < next) :
    row * columns + col < next * columns :=
  calc row * columns + col
      < row * columns + columns := Nat.add_lt_add_left left _
    _ = (row + 1) * columns := (Nat.succ_mul _ _).symm
    _ ≤ next * columns := Nat.mul_le_mul_right _ below

namespace AtlasCell

/-- The place of a cell in the order along the rows, which no word bounds. -/
def place (columns : UInt32) (cell : AtlasCell) : Nat :=
  cell.row.toNat * columns.toNat + cell.col.toNat

/-- The cell with a number. -/
def HasNumber (columns : UInt32) (number : Nat) (cell : AtlasCell) : Prop :=
  cell.col.toNat = number % columns.toNat ∧ cell.row.toNat = number / columns.toNat

variable {columns rows : UInt32} {number : Nat} {cell other : AtlasCell}

theorem HasNumber.eq (here : cell.HasNumber columns number)
    (there : other.HasNumber columns number) : cell = other := by
  obtain ⟨col, row⟩ := cell
  obtain ⟨otherCol, otherRow⟩ := other
  have cols : col = otherCol := UInt32.toNat_inj.mp (here.1.trans there.1.symm)
  have rows : row = otherRow := UInt32.toNat_inj.mp (here.2.trans there.2.symm)
  rw [cols, rows]

theorem HasNumber.place_eq (numbered : cell.HasNumber columns number) :
    cell.place columns = number := by
  rw [place, numbered.1, numbered.2, Nat.div_add_mod']

theorem HasNumber.mem_atlasCells (numbered : cell.HasNumber columns number)
    (inside : number < columns.toNat * rows.toNat) : cell ∈ atlasCells columns rows := by
  rw [mem_atlasCells_iff, UInt32.lt_iff_toNat_lt, UInt32.lt_iff_toNat_lt, numbered.1, numbered.2]
  exact ⟨Nat.mod_lt _ (Nat.pos_of_mul_pos_right (Nat.zero_lt_of_lt inside)),
    Nat.div_lt_of_lt_mul inside⟩

theorem hasNumber_place (inside : cell ∈ atlasCells columns rows) :
    cell.HasNumber columns (cell.place columns) := by
  have left : cell.col.toNat < columns.toNat :=
    UInt32.lt_iff_toNat_lt.mp ((mem_atlasCells_iff columns rows cell).mp inside).1
  constructor
  · rw [place, Nat.mul_comm, Nat.mul_add_mod, Nat.mod_eq_of_lt left]
  · rw [place, Nat.mul_comm, Nat.mul_add_div (Nat.zero_lt_of_lt left), Nat.div_eq_of_lt left,
      Nat.add_zero]

theorem place_lt (inside : cell ∈ atlasCells columns rows) :
    cell.place columns < columns.toNat * rows.toNat := by
  obtain ⟨left, below⟩ := (mem_atlasCells_iff columns rows cell).mp inside
  rw [Nat.mul_comm]
  exact along_rows (UInt32.lt_iff_toNat_lt.mp left) (UInt32.lt_iff_toNat_lt.mp below)

theorem place_injective (here : cell ∈ atlasCells columns rows)
    (there : other ∈ atlasCells columns rows) (same : cell.place columns = other.place columns) :
    cell = other := by
  have numbered := hasNumber_place here
  rw [same] at numbered
  exact numbered.eq (hasNumber_place there)

theorem place_ofNat {row col : Nat} (below : row < rows.toNat) (left : col < columns.toNat) :
    place columns ⟨UInt32.ofNat col, UInt32.ofNat row⟩ = row * columns.toNat + col := by
  rw [place, toNat_ofNat_below below, toNat_ofNat_below left]

end AtlasCell

section
variable {columns rows : UInt32} {number : Nat} {cell other : AtlasCell}

/-- Every place before the end of an atlas is that of a cell. -/
theorem exists_hasNumber (inside : number < columns.toNat * rows.toNat) :
    ∃ cell ∈ atlasCells columns rows, cell.HasNumber columns number := by
  have positive : 0 < columns.toNat := Nat.pos_of_mul_pos_right (Nat.zero_lt_of_lt inside)
  have numbered : AtlasCell.HasNumber columns number
      ⟨UInt32.ofNat (number % columns.toNat), UInt32.ofNat (number / columns.toNat)⟩ :=
    ⟨toNat_ofNat_below (Nat.mod_lt _ positive), toNat_ofNat_below (Nat.div_lt_of_lt_mul inside)⟩
  exact ⟨_, numbered.mem_atlasCells inside, numbered⟩

/-- The cells are listed by their places. -/
theorem places_ascend (columns rows : UInt32) :
    (atlasCells columns rows).Pairwise fun cell other =>
      cell.place columns < other.place columns := by
  rw [atlasCells, List.pairwise_flatMap]
  constructor
  · intro row below
    rw [List.pairwise_map]
    refine List.pairwise_lt_range.imp_of_mem fun {col next} here there before => ?_
    rw [List.mem_range] at below here there
    rw [AtlasCell.place_ofNat below here, AtlasCell.place_ofNat below there]
    exact Nat.add_lt_add_left before _
  · refine List.pairwise_lt_range.imp_of_mem fun {row next} here there before => ?_
    rw [List.mem_range] at here there
    intro cell inRow other inNext
    obtain ⟨col, left, rfl⟩ := List.mem_map.mp inRow
    obtain ⟨otherCol, otherLeft, rfl⟩ := List.mem_map.mp inNext
    rw [List.mem_range] at left otherLeft
    rw [AtlasCell.place_ofNat here left, AtlasCell.place_ofNat there otherLeft]
    exact Nat.lt_of_lt_of_le (along_rows left before) (Nat.le_add_right _ _)

/-! ## Automatic names -/

def automaticName (tileset : String) (number : Nat) : String :=
  tileset ++ "_" ++ Number.natText number

theorem automaticName_injective (tileset : String) {m n : Nat}
    (same : automaticName tileset m = automaticName tileset n) : m = n :=
  Number.natText_injective ((String.append_right_inj _).mp same)

/-- The number of a cell is what a word holds of its place. -/
theorem AtlasCell.toNat_number (columns : UInt32) (cell : AtlasCell) :
    (cell.number columns).toNat = cell.place columns % 2 ^ 32 := by
  rw [AtlasCell.number, UInt32.toNat_add, UInt32.toNat_mul, Nat.mod_add_mod, AtlasCell.place]

theorem AtlasCell.automaticName_eq (tileset : String) (columns : UInt32) (cell : AtlasCell) :
    cell.automaticName tileset columns =
      Tiles.automaticName tileset (cell.place columns % 2 ^ 32) := by
  rw [AtlasCell.automaticName, AtlasCell.toNat_number, Tiles.automaticName]

theorem AtlasCell.automaticName_eq_iff (tileset : String) :
    cell.automaticName tileset columns = other.automaticName tileset columns ↔
      cell.place columns % 2 ^ 32 = other.place columns % 2 ^ 32 := by
  rw [AtlasCell.automaticName_eq, AtlasCell.automaticName_eq]
  exact ⟨automaticName_injective tileset, congrArg _⟩

theorem places_fit_iff (columns rows : UInt32) :
    (∀ cell ∈ atlasCells columns rows, cell.place columns < 2 ^ 32) ↔
      columns.toNat * rows.toNat ≤ 2 ^ 32 := by
  constructor
  · intro fits
    by_contra large
    obtain ⟨cell, inside, numbered⟩ := exists_hasNumber (Nat.lt_of_not_le large)
    have fit := fits cell inside
    rw [numbered.place_eq] at fit
    exact Nat.lt_irrefl _ fit
  · intro small cell inside
    exact Nat.lt_of_lt_of_le (AtlasCell.place_lt inside) small

/-- No two cells have one automatic name exactly if there is a word for every place. -/
theorem automaticNames_distinct_iff (tileset : String) (columns rows : UInt32) :
    (∀ cell ∈ atlasCells columns rows, ∀ other ∈ atlasCells columns rows,
        cell.automaticName tileset columns = other.automaticName tileset columns → cell = other) ↔
      columns.toNat * rows.toNat ≤ 2 ^ 32 := by
  constructor
  · intro distinct
    by_contra large
    have more : 2 ^ 32 < columns.toNat * rows.toNat := Nat.lt_of_not_le large
    -- After as many cells as there are words the numbers begin anew.
    obtain ⟨first, here, start⟩ := exists_hasNumber (Nat.zero_lt_of_lt more)
    obtain ⟨again, there, anew⟩ := exists_hasNumber more
    have same : first.automaticName tileset columns = again.automaticName tileset columns := by
      rw [AtlasCell.automaticName_eq_iff, start.place_eq, anew.place_eq, Nat.mod_self, Nat.zero_mod]
    have equal := distinct first here again there same
    rw [equal] at start
    have places : 0 = 2 ^ 32 := start.place_eq.symm.trans anew.place_eq
    exact absurd places (by decide)
  · intro small cell here other there same
    have fits := (places_fit_iff columns rows).mpr small
    rw [AtlasCell.automaticName_eq_iff, Nat.mod_eq_of_lt (fits cell here),
      Nat.mod_eq_of_lt (fits other there)] at same
    exact AtlasCell.place_injective here there same

/-- All cells with their automatic names. -/
def automaticCells (tileset : String) (columns rows : UInt32) : List (String × AtlasCell) :=
  (atlasCells columns rows).map fun cell => (cell.automaticName tileset columns, cell)

/-- Of the cells with one automatic name the last one is that after which fewer cells come than
there are words. -/
theorem isLast_iff (tileset : String) (columns rows : UInt32) (cell : AtlasCell) :
    (∀ other ∈ atlasCells columns rows,
        other.automaticName tileset columns = cell.automaticName tileset columns →
          other.place columns ≤ cell.place columns) ↔
      columns.toNat * rows.toNat ≤ cell.place columns + 2 ^ 32 := by
  constructor
  · intro last
    by_contra more
    obtain ⟨other, there, numbered⟩ := exists_hasNumber (Nat.lt_of_not_le more)
    have same : other.automaticName tileset columns = cell.automaticName tileset columns := by
      rw [AtlasCell.automaticName_eq_iff, numbered.place_eq, Nat.add_mod_right]
    have low := last other there same
    rw [numbered.place_eq] at low
    omega
  · intro few other there same
    rw [AtlasCell.automaticName_eq_iff] at same
    have before := AtlasCell.place_lt there
    omega

/-- An automatic name stands for the last one of the cells that share it. -/
theorem getElem?_automaticCells (tileset : String) (columns rows : UInt32) (name : String)
    (cell : AtlasCell) :
    (nameCells Std.HashMap.emptyWithCapacity (automaticCells tileset columns rows))[name]? =
        some cell ↔
      cell ∈ atlasCells columns rows ∧ name = cell.automaticName tileset columns ∧
        columns.toNat * rows.toNat ≤ cell.place columns + 2 ^ 32 := by
  have sharing : (automaticCells tileset columns rows).filter (·.1 == name) =
      ((atlasCells columns rows).filter fun cell =>
        cell.automaticName tileset columns == name).map fun cell =>
          (cell.automaticName tileset columns, cell) :=
    List.filter_map
  have ascending := (places_ascend columns rows).filter fun cell =>
    cell.automaticName tileset columns == name
  rw [getElem?_nameCells, sharing, List.getLast?_map, Option.map_map,
    Std.HashMap.getElem?_emptyWithCapacity, Option.or_none, Function.comp_def, Option.map_id',
    getLast?_of_ascending ascending]
  simp only [List.mem_filter, beq_iff_eq, and_imp]
  constructor
  · rintro ⟨⟨inside, rfl⟩, last⟩
    exact ⟨inside, rfl, (isLast_iff tileset columns rows cell).mp last⟩
  · rintro ⟨inside, rfl, few⟩
    exact ⟨⟨inside, rfl⟩, (isLast_iff tileset columns rows cell).mpr few⟩

/-- With a word for every place the cell that has a number is the only one with its name. -/
theorem isLast_iff_hasNumber (tileset : String) (small : columns.toNat * rows.toNat ≤ 2 ^ 32)
    (name : String) (cell : AtlasCell) :
    cell ∈ atlasCells columns rows ∧ name = cell.automaticName tileset columns ∧
        columns.toNat * rows.toNat ≤ cell.place columns + 2 ^ 32 ↔
      ∃ number < columns.toNat * rows.toNat, name = automaticName tileset number ∧
        cell.HasNumber columns number := by
  constructor
  · rintro ⟨inside, rfl, -⟩
    have before := AtlasCell.place_lt inside
    refine ⟨cell.place columns, before, ?_, AtlasCell.hasNumber_place inside⟩
    rw [AtlasCell.automaticName_eq, Nat.mod_eq_of_lt (Nat.lt_of_lt_of_le before small)]
  · rintro ⟨number, before, rfl, numbered⟩
    refine ⟨numbered.mem_atlasCells before, ?_, Nat.le_trans small (Nat.le_add_left _ _)⟩
    rw [AtlasCell.automaticName_eq, numbered.place_eq,
      Nat.mod_eq_of_lt (Nat.lt_of_lt_of_le before small)]

end

end GameScenes.Tiles
