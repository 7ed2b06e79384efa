import GameScenes.Project.Tables

/-!
# Registering layers again

A layer that was registered once is absorbed from then on: registering it again changes nothing,
whether it got a slot or found none.  The table that a list of layers leaves behind is the one
that the same list, or any part of it, leaves as it is.
-/

set_option autoImplicit false

namespace GameScenes.LayerTable

/-- The table after the registration of layers in order. -/
def registerAll (table : LayerTable) (names : List String) : LayerTable :=
  names.foldl (fun filled name => (filled.register name).2) table

@[simp] theorem registerAll_nil (table : LayerTable) : table.registerAll [] = table := rfl

@[simp] theorem registerAll_cons (table : LayerTable) (name : String) (rest : List String) :
    table.registerAll (name :: rest) = (table.register name).2.registerAll rest := rfl

theorem registerAll_append (table : LayerTable) (names others : List String) :
    table.registerAll (names ++ others) = (table.registerAll names).registerAll others :=
  List.foldl_append

/-- That registering a layer changes nothing: it has a slot, or there is none left. -/
def Absorbs (table : LayerTable) (name : String) : Prop :=
  some name ∈ table.slots ∨ table.freeSlot? = none

theorem indexOf?_eq_none_iff (table : LayerTable) (name : String) :
    table.indexOf? name = none ↔ some name ∉ table.slots := by
  unfold indexOf?
  rw [List.findIdx?_eq_none_iff]
  constructor
  · intro apart member
    simpa using apart _ member
  · intro missing slot member
    rw [beq_eq_false_iff_ne]
    rintro rfl
    exact missing member

/-- The slot that is free is one without a name. -/
theorem getElem?_of_freeSlot? {table : LayerTable} {index : Nat}
    (free : table.freeSlot? = some index) : table.slots[index]? = some none := by
  unfold freeSlot? at free
  obtain ⟨offset, found, rfl⟩ := Option.map_eq_some_iff.mp free
  obtain ⟨inside, empty, -⟩ := List.findIdx?_eq_some_iff_getElem.mp found
  rw [List.getElem_drop, Option.isNone_iff_eq_none] at empty
  rw [Nat.add_comm]
  exact List.getElem?_eq_some_iff.mpr ⟨by simp at inside; omega, empty⟩

/-- All slots for documents before the one that is free have names. -/
theorem named_of_freeSlot? {table : LayerTable} {index : Nat}
    (free : table.freeSlot? = some index) :
    firstUserLayer ≤ index ∧ ∀ i, firstUserLayer ≤ i → i < index →
      ∃ name, table.slots[i]? = some (some name) := by
  unfold freeSlot? at free
  obtain ⟨offset, found, rfl⟩ := Option.map_eq_some_iff.mp free
  obtain ⟨inside, -, before⟩ := List.findIdx?_eq_some_iff_getElem.mp found
  refine ⟨Nat.le_add_left .., ?_⟩
  intro i reserved below
  have held := before (i - firstUserLayer) (by omega)
  rw [List.getElem_drop, Bool.not_eq_true, Option.isNone_eq_false_iff,
    Option.isSome_iff_exists] at held
  obtain ⟨name, at_slot⟩ := held
  refine ⟨name, List.getElem?_eq_some_iff.mpr ⟨?_, ?_⟩⟩
  · rw [List.length_drop] at inside
    omega
  · rw [← at_slot]
    congr 1
    omega

theorem freeSlot?_eq_none_iff (table : LayerTable) :
    table.freeSlot? = none ↔ ∀ i, firstUserLayer ≤ i → i < layerSlotCount →
      ∃ name, table.slots[i]? = some (some name) := by
  unfold freeSlot?
  rw [Option.map_eq_none_iff, List.findIdx?_eq_none_iff]
  constructor
  · intro named i reserved inside
    have there : i < table.slots.length := by
      rw [table.size_eq]
      exact inside
    have member : table.slots[i] ∈ table.slots.drop firstUserLayer :=
      List.mem_drop_iff_getElem.mpr ⟨i - firstUserLayer, by omega, by congr 1; omega⟩
    obtain ⟨name, held⟩ := Option.isSome_iff_exists.mp
      (Option.isNone_eq_false_iff.mp (named _ member))
    exact ⟨name, List.getElem?_eq_some_iff.mpr ⟨there, held⟩⟩
  · intro named slot member
    obtain ⟨i, inside, rfl⟩ := List.mem_drop_iff_getElem.mp member
    obtain ⟨name, held⟩ := named (firstUserLayer + i) (Nat.le_add_right ..) (by
      rw [← table.size_eq]
      omega)
    obtain ⟨_, same⟩ := List.getElem?_eq_some_iff.mp held
    rw [same]
    rfl

theorem register_of_absorbs {table : LayerTable} {name : String} (absorbs : table.Absorbs name) :
    (table.register name).2 = table := by
  unfold register
  cases found : table.indexOf? name with
  | some index => rfl
  | none =>
      rcases absorbs with member | full
      · exact absurd member ((indexOf?_eq_none_iff table name).mp found)
      · rw [full]

/-- Registering a layer puts its name into the table, or is refused because no slot is free. -/
theorem register_cases (table : LayerTable) (name : String) :
    ((table.register name).1.isSome = true ∧ some name ∈ (table.register name).2.slots) ∨
      (table.register name = (none, table) ∧ some name ∉ table.slots ∧
        table.freeSlot? = none) := by
  unfold register
  cases found : table.indexOf? name with
  | some index =>
      refine .inl ⟨rfl, Decidable.byContradiction ?_⟩
      intro missing
      rw [(indexOf?_eq_none_iff table name).mpr missing] at found
      simp at found
  | none =>
      dsimp only
      cases free : table.freeSlot? with
      | none => exact .inr ⟨rfl, (indexOf?_eq_none_iff table name).mp found, rfl⟩
      | some index =>
          have inside := (List.getElem?_eq_some_iff.mp (getElem?_of_freeSlot? free)).1
          exact .inl ⟨rfl, List.mem_set inside (some name)⟩

theorem absorbs_register (table : LayerTable) (name : String) :
    (table.register name).2.Absorbs name := by
  rcases register_cases table name with ⟨-, member⟩ | ⟨same, -, full⟩
  · exact .inl member
  · rw [same]
    exact .inr full

/-- Registering another layer takes no name from the table. -/
theorem mem_register_of_mem {table : LayerTable} {name : String}
    (member : some name ∈ table.slots) (other : String) :
    some name ∈ (table.register other).2.slots := by
  unfold register
  cases table.indexOf? other with
  | some index => exact member
  | none =>
      dsimp only
      cases free : table.freeSlot? with
      | none => exact member
      | some index =>
          obtain ⟨place, held⟩ := List.mem_iff_getElem?.mp member
          have apart : index ≠ place := by
            rintro rfl
            rw [getElem?_of_freeSlot? free] at held
            simp at held
          have stays : (table.slots.set index (some other))[place]? = some (some name) := by
            rw [List.getElem?_set_ne apart]
            exact held
          exact List.mem_iff_getElem?.mpr ⟨place, stays⟩

/-- Registering another layer takes no name from the table and frees no slot. -/
theorem Absorbs.register {table : LayerTable} {name : String} (absorbs : table.Absorbs name)
    (other : String) : (table.register other).2.Absorbs name := by
  rcases absorbs with member | full
  · exact .inl (mem_register_of_mem member other)
  · rw [register_of_absorbs (.inr full)]
    exact .inr full

theorem Absorbs.registerAll {table : LayerTable} {name : String} (absorbs : table.Absorbs name)
    (names : List String) : (table.registerAll names).Absorbs name := by
  induction names generalizing table with
  | nil => exact absorbs
  | cons first rest ih => exact ih (absorbs.register first)

theorem absorbs_registerAll (table : LayerTable) {names : List String} {name : String}
    (member : name ∈ names) : (table.registerAll names).Absorbs name := by
  induction names generalizing table with
  | nil => simp at member
  | cons first rest ih =>
      rw [registerAll_cons]
      rcases List.mem_cons.mp member with rfl | later
      · exact (absorbs_register table name).registerAll rest
      · exact ih _ later

theorem registerAll_of_absorbs {table : LayerTable} {names : List String}
    (absorbs : ∀ name ∈ names, table.Absorbs name) : table.registerAll names = table := by
  induction names with
  | nil => rfl
  | cons first rest ih =>
      rw [registerAll_cons, register_of_absorbs (absorbs first (List.mem_cons_self ..))]
      exact ih fun name member => absorbs name (List.mem_cons_of_mem _ member)

/-! ## Layers without a slot -/

theorem mem_registerAll_of_mem {table : LayerTable} {name : String}
    (member : some name ∈ table.slots) (names : List String) :
    some name ∈ (table.registerAll names).slots := by
  induction names generalizing table with
  | nil => exact member
  | cons first rest ih => exact ih (mem_register_of_mem member first)

/-- The layers of a list that have no slot when all of it is registered. -/
def unplaced (table : LayerTable) (names : List String) : List String :=
  names.filter fun name => ((table.registerAll names).indexOf? name).isNone

/-- A layer is left without a slot exactly if it is refused in its turn. -/
theorem unplaced_cons (table : LayerTable) (name : String) (rest : List String) :
    table.unplaced (name :: rest) =
      (if (table.register name).1.isNone then [name] else []) ++
        (table.register name).2.unplaced rest := by
  unfold unplaced
  rw [registerAll_cons, List.filter_cons]
  rcases register_cases table name with ⟨given, member⟩ | ⟨same, missing, full⟩
  · have there := mem_registerAll_of_mem member rest
    have found : (((table.register name).2.registerAll rest).indexOf? name).isNone = false := by
      rw [Option.isNone_eq_false_iff, Option.isSome_iff_ne_none, Ne, indexOf?_eq_none_iff]
      exact not_not_intro there
    rw [found, Option.isNone_eq_false_iff.mpr given]
    rfl
  · -- the table is full, and so no layer of the rest changes it
    have still : table.registerAll rest = table := registerAll_of_absorbs fun _ _ => .inr full
    rw [same, still, (indexOf?_eq_none_iff table name).mpr missing]
    rfl

end GameScenes.LayerTable
