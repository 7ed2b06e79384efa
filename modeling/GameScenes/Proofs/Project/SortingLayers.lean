import GameScenes.Project.Tables
import Mathlib.Data.List.Nodup

/-!
# Identifiers of sorting layers

An identifier is looked for among the draws until one may be given out.  What is given out is not
zero and not taken, whatever the draws are, and only a table that has taken all identifiers gets
none.
-/

set_option autoImplicit false

namespace GameScenes.SortingLayerTable

variable {table : SortingLayerTable} {draws : Draws} {id : UInt32}

theorem isFree_iff :
    table.isFree id = true ↔ id ≠ 0 ∧ ∀ layer ∈ table.layers, layer.uniqueId ≠ id := by
  simp [isFree]

theorem has_iff {name : String} : table.has name = true ↔ name ∈ table.layers.map (·.name) := by
  simp [has]

/-! ## Draws -/

/-- One turn of the search for a draw that may be given out. -/
def turn (table : SortingLayerTable) (source : Nat → UInt32) (place : Nat) : Id (Nat ⊕ Nat) :=
  if table.isFree (source place) then .inr place else .inl (place + 1)

theorem drawnAt_eq_repeatM (table : SortingLayerTable) (draws : Draws) :
    table.drawnAt draws = (repeatM (table.turn draws.source) draws.used : Id Nat) := by
  change (repeatM _ draws.used : Id Nat) = _
  congr 1
  funext place
  simp only [turn]
  cases table.isFree (draws.source place) <;> rfl

theorem drawnAt_eq (table : SortingLayerTable) (draws : Draws) :
    table.drawnAt draws =
      if table.isFree (draws.source draws.used) then draws.used
      else table.drawnAt { draws with used := draws.used + 1 } := by
  rw [drawnAt_eq_repeatM, drawnAt_eq_repeatM, repeatM_eq_of_monadTail]
  simp only [repeatM.body, turn]
  cases table.isFree (draws.source draws.used) <;> rfl

/-- The first draw that may be given out is found, however far ahead it is. -/
theorem drawnAt_of_free (count : Nat)
    (taken : ∀ m < count, table.isFree (draws.source (draws.used + m)) = false)
    (free : table.isFree (draws.source (draws.used + count)) = true) :
    table.drawnAt draws = draws.used + count := by
  induction count generalizing draws with
  | zero =>
      rw [Nat.add_zero] at free
      rw [drawnAt_eq, if_pos free]
      rfl
  | succ count ih =>
      have first := taken 0 (Nat.succ_pos count)
      rw [Nat.add_zero] at first
      rw [drawnAt_eq, if_neg (by simp [first]), ih]
      · dsimp only
        omega
      · intro m below
        have next := taken (m + 1) (by omega)
        rw [← Nat.add_assoc, Nat.add_right_comm] at next
        exact next
      · rw [← Nat.add_assoc, Nat.add_right_comm] at free
        exact free

/-! ## The least identifier -/

theorem candidates_nodup (count : Nat) (small : count < UInt32.size) :
    ((List.range' 1 count).map UInt32.ofNat).Nodup := by
  rw [List.nodup_map_iff_inj_on List.nodup_range']
  intro m inside n there same
  rw [List.mem_range'_1] at inside there
  have equal := congrArg UInt32.toNat same
  rw [UInt32.toNat_ofNat_of_lt' (by omega), UInt32.toNat_ofNat_of_lt' (by omega)] at equal
  exact equal

/-- An identifier is given out as long as there is one that may be. -/
theorem leastFree?_eq_none_iff : table.leastFree? = none ↔ ∀ id, table.isFree id = false := by
  unfold leastFree?
  rw [List.find?_eq_none]
  constructor
  · intro taken id
    rw [Bool.eq_false_iff]
    intro free
    have nonzero : id ≠ 0 := (isFree_iff.mp free).1
    by_cases low : id.toNat ≤ table.layers.length + 1
    · -- the identifier is a candidate itself
      refine taken id (List.mem_map.mpr ⟨id.toNat, ?_, UInt32.ofNat_toNat⟩) free
      rw [List.mem_range'_1]
      have positive : id.toNat ≠ 0 := fun zero => nonzero (UInt32.toNat_inj.mp zero)
      omega
    · -- there are more candidates than identifiers that are taken
      have small : table.layers.length + 1 < UInt32.size := by
        have bound := id.toNat_lt
        simp only [UInt32.size]
        omega
      have subset : (List.range' 1 (table.layers.length + 1)).map UInt32.ofNat ⊆
          table.layers.map (·.uniqueId) := by
        intro candidate member
        obtain ⟨n, inside, rfl⟩ := List.mem_map.mp member
        rw [List.mem_range'_1] at inside
        have positive : UInt32.ofNat n ≠ 0 := by
          intro zero
          have equal := congrArg UInt32.toNat zero
          rw [UInt32.toNat_ofNat_of_lt' (by omega)] at equal
          simp at equal
          omega
        by_contra missing
        apply taken _ member
        refine isFree_iff.mpr ⟨positive, ?_⟩
        intro layer listed same
        exact missing (List.mem_map.mpr ⟨layer, listed, same⟩)
      have fits := (candidates_nodup _ small).length_le_of_subset subset
      simp only [List.length_map, List.length_range'] at fits
      omega
  · intro taken candidate _
    simp [taken]

/-! ## The next identifier -/

theorem isFree_of_nextId? {later : Draws} (next : table.nextId? draws = some (id, later)) :
    table.isFree id = true := by
  unfold nextId? at next
  dsimp only at next
  by_cases free : table.isFree (draws.source (table.drawnAt draws)) = true
  · rw [if_pos free] at next
    cases next
    exact free
  · rw [if_neg free] at next
    obtain ⟨least, found, equal⟩ := Option.map_eq_some_iff.mp next
    cases equal
    exact List.find?_some found

/-- The draws decide as long as one of them may be given out. -/
theorem nextId?_of_free (count : Nat)
    (taken : ∀ m < count, table.isFree (draws.source (draws.used + m)) = false)
    (free : table.isFree (draws.source (draws.used + count)) = true) :
    table.nextId? draws = some (draws.source (draws.used + count),
      { draws with used := draws.used + count + 1 }) := by
  unfold nextId?
  rw [drawnAt_of_free count taken free, if_pos free]

theorem nextId?_eq_none_iff : table.nextId? draws = none ↔ ∀ id, table.isFree id = false := by
  unfold nextId?
  dsimp only
  by_cases free : table.isFree (draws.source (table.drawnAt draws)) = true
  · rw [if_pos free]
    refine ⟨fun none => absurd none (by simp), ?_⟩
    intro taken
    rw [taken] at free
    cases free
  · rw [if_neg free, Option.map_eq_none_iff, leastFree?_eq_none_iff]

/-! ## Registering -/

theorem register_of_has {name : String} (present : table.has name = true) :
    table.register draws name = (table, draws) := by
  rw [register, if_pos present]

theorem register_of_full {name : String} (full : ∀ id, table.isFree id = false) :
    table.register draws name = (table, draws) := by
  unfold register
  split
  · rfl
  · rw [nextId?_eq_none_iff.mpr full]

/-- What registering a sorting layer does. -/
theorem register_cases (table : SortingLayerTable) (draws : Draws) (name : String) :
    table.register draws name = (table, draws) ∨
      ∃ id later, table.has name = false ∧ table.isFree id = true ∧
        table.register draws name = (⟨table.layers ++ [⟨name, id⟩]⟩, later) := by
  by_cases present : table.has name = true
  · exact .inl (register_of_has present)
  · have missing : table.has name = false := Bool.eq_false_iff.mpr present
    cases next : table.nextId? draws with
    | none => exact .inl (register_of_full (nextId?_eq_none_iff.mp next))
    | some drawn =>
        obtain ⟨id, later⟩ := drawn
        refine .inr ⟨id, later, missing, isFree_of_nextId? next, ?_⟩
        rw [register, if_neg present, next]

end GameScenes.SortingLayerTable
