import GameScenes.Behavior.Coercion
import GameScenes.Proofs.Project.Layers
import Mathlib.Algebra.Group.Nat.Defs
import Mathlib.Data.List.Basic

/-!
# Layer masks

The mask of a layer has one bit, that of the first slot with its name; the mask of several names has
the bits of all of them.  Which names are listed decides the mask, and neither their order nor their
number: a name that is not registered leaves no mask at all (`coerce_takesLayers`).
-/

set_option autoImplicit false

namespace GameScenes

namespace LayerTable

variable {table : LayerTable} {layer : String} {slot : Nat} {mask : UInt32}

/-- That a layer has a slot. -/
def Registered (table : LayerTable) (layer : String) : Prop := some layer ∈ table.slots

/-- That a slot is the first one with the name of a layer. -/
def FirstSlot (table : LayerTable) (layer : String) (slot : Nat) : Prop :=
  table.slots[slot]? = some (some layer) ∧
    ∀ earlier, earlier < slot → table.slots[earlier]? ≠ some (some layer)

theorem indexOf?_eq_some_iff : table.indexOf? layer = some slot ↔ table.FirstSlot layer slot := by
  unfold indexOf? FirstSlot
  rw [List.findIdx?_eq_some_iff_getElem]
  constructor
  · rintro ⟨inside, named, before⟩
    refine ⟨List.getElem?_eq_some_iff.mpr ⟨inside, beq_iff_eq.mp named⟩, ?_⟩
    intro earlier less same
    obtain ⟨_, taken⟩ := List.getElem?_eq_some_iff.mp same
    exact before earlier less (beq_iff_eq.mpr taken)
  · rintro ⟨found, before⟩
    obtain ⟨inside, named⟩ := List.getElem?_eq_some_iff.mp found
    refine ⟨inside, beq_iff_eq.mpr named, ?_⟩
    intro earlier less same
    exact before earlier less (List.getElem?_eq_some_iff.mpr
      ⟨Nat.lt_trans less inside, beq_iff_eq.mp same⟩)

theorem FirstSlot.lt (first : table.FirstSlot layer slot) : slot < layerSlotCount := by
  rw [← table.size_eq]
  exact (List.getElem?_eq_some_iff.mp first.1).1

theorem registered_iff : table.Registered layer ↔ ∃ slot, table.FirstSlot layer slot := by
  simp only [← indexOf?_eq_some_iff]
  rw [← Option.ne_none_iff_exists', Ne, indexOf?_eq_none_iff, not_not, Registered]

/-! ## Masks of layers -/

/-- No bit is shifted out of the word. -/
theorem toNat_shiftLeft_one (small : slot < layerSlotCount) :
    (1 <<< UInt32.ofNat slot : UInt32).toNat = 2 ^ slot := by
  have inside : slot < 32 := small
  have fits : 2 ^ slot < 2 ^ 32 := Nat.pow_lt_pow_right (by decide) inside
  have kept : slot % 2 ^ 32 = slot := Nat.mod_eq_of_lt (Nat.lt_trans inside (by decide))
  rw [UInt32.toNat_shiftLeft, UInt32.toNat_ofNat', kept,
    Nat.mod_eq_of_lt inside, UInt32.toNat_one, Nat.one_shiftLeft, Nat.mod_eq_of_lt fits]

theorem maskFor?_eq_some_iff :
    table.maskFor? layer = some mask ↔
      ∃ slot, table.FirstSlot layer slot ∧ mask.toNat = 2 ^ slot := by
  unfold maskFor?
  rw [Option.map_eq_some_iff]
  simp only [indexOf?_eq_some_iff]
  refine exists_congr fun slot => and_congr_right fun first => ?_
  rw [← UInt32.toNat_inj, toNat_shiftLeft_one first.lt, eq_comm]

theorem maskFor?_eq_none_iff : table.maskFor? layer = none ↔ ¬ table.Registered layer := by
  rw [maskFor?, Option.map_eq_none_iff, indexOf?_eq_none_iff, Registered]

/-- The only bit of a layer's mask is that of its first slot. -/
theorem testBit_maskFor? (found : table.maskFor? layer = some mask) (k : Nat) :
    mask.toNat.testBit k = true ↔ table.FirstSlot layer k := by
  obtain ⟨slot, first, value⟩ := maskFor?_eq_some_iff.mp found
  rw [value, Nat.testBit_two_pow, decide_eq_true_iff]
  constructor
  · rintro rfl
    exact first
  · intro other
    exact Option.some_inj.mp
      ((indexOf?_eq_some_iff.mpr first).symm.trans (indexOf?_eq_some_iff.mpr other))

end LayerTable

namespace Behavior

variable {layers : LayerTable} {raw : String} {raws : List String} {start mask : UInt32}

/-! ## Masks of names -/

/-- That a name stands for a layer, without the blanks around it. -/
def Names (layers : LayerTable) (raw : String) : Prop := layers.Registered (Text.trim raw)

instance : DecidablePred (Names layers) := fun raw =>
  inferInstanceAs (Decidable (some (Text.trim raw) ∈ layers.slots))

theorem exists_first_unknown (unknown : ¬ ∀ raw ∈ raws, Names layers raw) :
    ∃ before raw after, raws = before ++ raw :: after ∧
      (∀ known ∈ before, Names layers known) ∧ ¬ Names layers raw := by
  have found : (raws.find? fun raw => !decide (Names layers raw)) ≠ none := by
    rw [Ne, List.find?_eq_none]
    simpa using unknown
  obtain ⟨raw, first⟩ := Option.ne_none_iff_exists'.mp found
  obtain ⟨refused, before, after, rfl, known⟩ := List.find?_eq_some_iff_append.mp first
  exact ⟨before, raw, after, rfl, by simpa using known, by simpa using refused⟩

theorem maskOfName_of_names (names : Names layers raw) :
    ∃ mask, maskOfName layers raw = .ok mask ∧
      ∀ k, mask.toNat.testBit k = true ↔ layers.FirstSlot (Text.trim raw) k := by
  cases found : layers.maskFor? (Text.trim raw) with
  | some mask =>
      refine ⟨mask, ?_, LayerTable.testBit_maskFor? found⟩
      simp only [maskOfName, found]
  | none => exact absurd names (LayerTable.maskFor?_eq_none_iff.mp found)

theorem maskOfName_of_not_names (unknown : ¬ Names layers raw) :
    maskOfName layers raw = .error (.unknownLayer (Text.trim raw)) := by
  simp only [maskOfName, LayerTable.maskFor?_eq_none_iff.mpr unknown]

/-- One more name adds its bit. -/
theorem maskOfNames_text (names : Names layers raw) (start : UInt32) (rest : List Json) :
    ∃ next, maskOfNames layers start (.text raw :: rest) = maskOfNames layers next rest ∧
      ∀ k, next.toNat.testBit k = true ↔
        start.toNat.testBit k = true ∨ layers.FirstSlot (Text.trim raw) k := by
  obtain ⟨mask, named, bits⟩ := maskOfName_of_names names
  refine ⟨start ||| mask, ?_, fun k => ?_⟩
  · simp only [maskOfNames, named]
  · rw [UInt32.toNat_or, Nat.testBit_or, Bool.or_eq_true, bits]

/-- Names that all stand for layers add their bits, and whatever follows them is read on. -/
theorem maskOfNames_append (names : ∀ raw ∈ raws, Names layers raw) (start : UInt32)
    (rest : List Json) :
    ∃ next, maskOfNames layers start (raws.map .text ++ rest) = maskOfNames layers next rest ∧
      ∀ k, next.toNat.testBit k = true ↔
        start.toNat.testBit k = true ∨ ∃ raw ∈ raws, layers.FirstSlot (Text.trim raw) k := by
  induction raws generalizing start with
  | nil => exact ⟨start, rfl, fun k => by simp⟩
  | cons raw raws ih =>
      obtain ⟨head, first, bit⟩ :=
        maskOfNames_text (names raw (List.mem_cons_self ..)) start (raws.map .text ++ rest)
      obtain ⟨next, further, bits⟩ :=
        ih (fun other member => names other (List.mem_cons_of_mem _ member)) head
      refine ⟨next, first.trans further, fun k => ?_⟩
      rw [bits, bit, or_assoc, List.exists_mem_cons_iff]

theorem maskOfNames_of_names (names : ∀ raw ∈ raws, Names layers raw) :
    ∃ mask, maskOfNames layers 0 (raws.map .text) = .ok mask ∧
      ∀ k, mask.toNat.testBit k = true ↔ ∃ raw ∈ raws, layers.FirstSlot (Text.trim raw) k := by
  obtain ⟨mask, read, bits⟩ := maskOfNames_append names 0 []
  rw [List.append_nil] at read
  refine ⟨mask, read, fun k => ?_⟩
  rw [bits, UInt32.toNat_zero, Nat.zero_testBit, or_iff_right Bool.false_ne_true]

/-- The first name that stands for no layer ends the list. -/
theorem maskOfNames_of_not_names (names : ∀ raw ∈ raws, Names layers raw)
    (unknown : ¬ Names layers raw) (rest : List Json) :
    maskOfNames layers 0 (raws.map .text ++ .text raw :: rest) =
      .error (.unknownLayer (Text.trim raw)) := by
  obtain ⟨next, read, -⟩ := maskOfNames_append names 0 (.text raw :: rest)
  rw [read]
  simp only [maskOfNames, maskOfName_of_not_names unknown]

/-- A list of names has a mask exactly when all of them stand for layers. -/
theorem maskOfNames_ok_iff : maskOfNames layers 0 (raws.map .text) = .ok mask ↔
    (∀ raw ∈ raws, Names layers raw) ∧
      ∀ k, mask.toNat.testBit k = true ↔ ∃ raw ∈ raws, layers.FirstSlot (Text.trim raw) k := by
  by_cases names : ∀ raw ∈ raws, Names layers raw
  · obtain ⟨found, read, bits⟩ := maskOfNames_of_names names
    rw [read, Except.ok.injEq, and_iff_right names]
    constructor
    · rintro rfl
      exact bits
    · intro same
      rw [← UInt32.toNat_inj]
      refine Nat.eq_of_testBit_eq fun k => Bool.eq_iff_iff.mpr ?_
      rw [bits, same]
  · refine iff_of_false (fun read => ?_) fun same => names same.1
    obtain ⟨before, raw, after, rfl, known, unknown⟩ := exists_first_unknown names
    rw [List.map_append, List.map_cons, maskOfNames_of_not_names known unknown] at read
    cases read

/-- The mask only depends on which names are listed, without the blanks around them. -/
theorem maskOfNames_alike {others : List String}
    (same : ∀ name, name ∈ raws.map Text.trim ↔ name ∈ others.map Text.trim) :
    maskOfNames layers 0 (raws.map .text) = .ok mask ↔
      maskOfNames layers 0 (others.map .text) = .ok mask := by
  have all : ∀ holds : String → Prop,
      (∃ raw ∈ raws, holds (Text.trim raw)) ↔ ∃ raw ∈ others, holds (Text.trim raw) := by
    intro holds
    have named := fun name => and_congr_left (c := holds name) fun _ => same name
    simpa using exists_congr named
  have unknown := (all fun name => ¬ layers.Registered name).not
  simp only [not_exists, not_and, not_not] at unknown
  rw [maskOfNames_ok_iff, maskOfNames_ok_iff]
  exact and_congr unknown (forall_congr' fun k => by rw [all fun name => layers.FirstSlot name k])

/-! ## All values -/

theorem asLayerMask_number (n : JsonNumber) :
    asLayerMask layers (.number n) = .ok mask ↔ n = .int mask.toNat := by
  cases n with
  | float x => exact iff_of_false nofun nofun
  | single x => exact iff_of_false nofun nofun
  | int k =>
      have below := mask.toNat_lt
      rw [JsonNumber.int.injEq, asLayerMask]
      split
      case isTrue inside =>
        rw [Except.ok.injEq, ← UInt32.toNat_inj, UInt32.toNat_ofNat',
          Nat.mod_eq_of_lt (by omega)]
        omega
      case isFalse outside => exact iff_of_false nofun (by omega)

theorem maskOfNames_texts {items : List Json} (read : maskOfNames layers start items = .ok mask) :
    ∃ raws : List String, items = raws.map .text := by
  induction items generalizing start with
  | nil => exact ⟨[], rfl⟩
  | cons item rest ih =>
      cases item with
      | text raw =>
          simp only [maskOfNames] at read
          split at read
          · cases read
          · obtain ⟨raws, rfl⟩ := ih read
            exact ⟨raw :: raws, rfl⟩
      | null | bool | number | array | object => cases read

/-- A name is taken like the list of it alone. -/
theorem asLayerMask_text (layers : LayerTable) (raw : String) :
    asLayerMask layers (.text raw) = asLayerMask layers (.array [.text raw]) := by
  simp only [asLayerMask, maskOfNames]
  cases maskOfName layers raw with
  | error fault => rfl
  | ok mask => exact congrArg Except.ok UInt32.zero_or.symm

/-- How a field of layer masks takes values.  A name has the mask with the bit of its layer's first
slot, several names have that with the bits of all, however they are ordered and repeated, and the
first name of no layer is a fault.  A number is taken as it is when it is whole and has 32 bits. -/
structure TakesLayers (layers : LayerTable) (coerced : Json → Except CoercionFault FieldValue) :
    Prop where
  bit : ∀ layer slot, layers.FirstSlot layer slot →
    slot < 32 ∧ ∃ mask, layers.maskFor? layer = some mask ∧ mask.toNat = 2 ^ slot
  name : ∀ raw, coerced (.text raw) = coerced (.array [.text raw])
  names : ∀ raws : List String, (∀ raw ∈ raws, layers.Registered (Text.trim raw)) →
    ∃ mask, coerced (.array (raws.map .text)) = .ok (.layerMask mask) ∧ ∀ k,
      mask.toNat.testBit k = true ↔ ∃ raw ∈ raws, layers.FirstSlot (Text.trim raw) k
  alike : ∀ raws others : List String,
    (∀ name, name ∈ raws.map Text.trim ↔ name ∈ others.map Text.trim) → ∀ v,
      coerced (.array (raws.map .text)) = .ok v ↔ coerced (.array (others.map .text)) = .ok v
  unknown : ∀ (raws : List String) raw rest, (∀ known ∈ raws, layers.Registered (Text.trim known)) →
    ¬ layers.Registered (Text.trim raw) →
      coerced (.array (raws.map .text ++ .text raw :: rest)) =
        .error (.unknownLayer (Text.trim raw))
  number : ∀ n v, coerced (.number n) = .ok v ↔
    ∃ mask : UInt32, n = .int mask.toNat ∧ v = .layerMask mask
  others : ∀ j v, coerced j = .ok v →
    (∃ n, j = .number n) ∨ (∃ raw, j = .text raw) ∨
      ∃ raws : List String, j = .array (raws.map .text)

theorem coerce_layerMask_eq_ok (graph : Scene.Graph) (layers : LayerTable)
    (context : Option EntityId) (j : Json) (v : FieldValue) :
    coerce graph layers context .layerMask j = .ok v ↔
      ∃ mask, asLayerMask layers j = .ok mask ∧ v = .layerMask mask := by
  simp only [coerce]
  cases asLayerMask layers j with
  | error fault => simp [Except.map]
  | ok mask => simp [Except.map, eq_comm]

/-- Every table has 32 slots, with gaps and repeated names or without, however many layers were
registered in it. -/
theorem coerce_takesLayers (graph : Scene.Graph) (layers : LayerTable) (context : Option EntityId) :
    TakesLayers layers (coerce graph layers context .layerMask) where
  bit layer slot first := by
    have value := LayerTable.toNat_shiftLeft_one first.lt
    exact ⟨first.lt, _, LayerTable.maskFor?_eq_some_iff.mpr ⟨slot, first, value⟩, value⟩
  name raw := by simp only [coerce, asLayerMask_text]
  names raws registered := by
    obtain ⟨mask, read, bits⟩ := maskOfNames_of_names registered
    exact ⟨mask, (coerce_layerMask_eq_ok ..).mpr ⟨mask, read, rfl⟩, bits⟩
  alike raws others same v := by
    rw [coerce_layerMask_eq_ok, coerce_layerMask_eq_ok]
    exact exists_congr fun mask => and_congr_left fun _ => maskOfNames_alike same
  unknown raws raw rest registered unregistered := by
    simp only [coerce, asLayerMask, maskOfNames_of_not_names registered unregistered, Except.map]
  number n v := by simp only [coerce_layerMask_eq_ok, asLayerMask_number]
  others j v taken := by
    obtain ⟨mask, read, -⟩ := (coerce_layerMask_eq_ok ..).mp taken
    cases j with
    | number n => exact .inl ⟨n, rfl⟩
    | text raw => exact .inr (.inl ⟨raw, rfl⟩)
    | array items =>
        obtain ⟨raws, rfl⟩ := maskOfNames_texts read
        exact .inr (.inr ⟨raws, rfl⟩)
    | null | bool | object => cases read

end Behavior

end GameScenes
