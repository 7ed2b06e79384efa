import GameScenes.Behavior.Coercion
import GameScenes.Proofs.Number.Narrowing

/-!
# Finite numbers of fields

A field of numbers holds a finite double.  The components of a vector are written as finite doubles
too, but they are stored as singles, and one that is rounded beyond the singles is stored as
infinite (`coerce_storesNumbers`, `coerce_stores_infinity`).
-/

set_option autoImplicit false

namespace GameScenes

namespace Number

/-- That a double is not rounded beyond the singles. -/
def FitsSingle (x : Float) : Prop := ∃ q, doubleValue? x = some q ∧ |q| < singleLimit

theorem exists_doubleValue? {x : Float} (finite : x.isFinite = true) :
    ∃ q, doubleValue? x = some q := by
  have taken : (unpackDouble x).isFinite = true := finite
  rw [isFinite_iff_isSome, ← doubleValue?_eq] at taken
  exact Option.isSome_iff_exists.mp taken

theorem narrow_of_isFinite {x : Float} (finite : x.isFinite = true) :
    (narrow x).isNaN = false ∧ ((narrow x).isFinite = true ↔ FitsSingle x) := by
  obtain ⟨q, value⟩ := exists_doubleValue? finite
  refine ⟨isNaN_narrow value, ?_⟩
  simp only [isFinite_narrow_iff value, FitsSingle, value, Option.some_inj, exists_eq_left']

end Number

namespace Behavior

open Number (FitsSingle narrow narrow_of_isFinite)

variable {j : Json} {raw : Option Json} {x : Float}

/-- The singles of a vector that a field holds. -/
def FieldValue.components : FieldValue → List Float32
  | vector2 v => [v.x, v.y]
  | vector3 v => [v.x, v.y, v.z]
  | _ => []

/-- The doubles that a value writes as the components of a vector. -/
def writtenDoubles (j : Json) : List Float :=
  match rawComponents? j with
  | some (x, y, z) => [x, y, z].filterMap (·.bind asFloat?)
  | none => []

/-! ## Components -/

theorem isFinite_of_asFloat? (taken : asFloat? j = some x) : x.isFinite = true :=
  (Option.filter_eq_some_iff.mp taken).2

theorem isFinite_of_written (written : x ∈ writtenDoubles j) : x.isFinite = true := by
  unfold writtenDoubles at written
  cases parts : rawComponents? j with
  | none =>
      rw [parts] at written
      cases written
  | some raws =>
      rw [parts] at written
      obtain ⟨raw, -, taken⟩ := List.mem_filterMap.mp written
      obtain ⟨_, -, taken⟩ := Option.bind_eq_some_iff.mp taken
      exact isFinite_of_asFloat? taken

/-- A component that is accepted is the narrowed double that it writes, if it is there. -/
theorem component?_eq_some {c : Option Float32} (accepted : component? raw = some c) :
    (raw.bind asFloat?).map narrow = c := by
  fun_cases component? raw with
  | case1 => exact Option.some.inj accepted
  | case2 => exact Option.some.inj accepted
  | case3 j someNumber =>
      have accepted : ((asFloat? j).map fun x => some (narrow x)) = some c := by
        cases j with
        | null => exact absurd rfl someNumber
        | bool | number | text | array | object => exact accepted
      obtain ⟨x, taken, rfl⟩ := Option.map_eq_some_iff.mp accepted
      rw [Option.bind_some, taken, Option.map_some]

theorem vectorParts?_eq_some {x y : Float32} {z : Option Float32}
    (accepted : vectorParts? j = some (x, y, z)) :
    x :: y :: z.toList = (writtenDoubles j).map narrow := by
  unfold vectorParts? at accepted
  unfold writtenDoubles
  split at accepted
  case h_1 => cases accepted
  case h_2 rawX rawY rawZ raws =>
    split at accepted
    case h_2 => cases accepted
    case h_1 x' y' z' acceptedX acceptedY acceptedZ =>
      obtain ⟨rfl, rfl, rfl⟩ : x' = x ∧ y' = y ∧ z' = z := by
        simpa only [Option.some_inj, Prod.mk.injEq] using accepted
      rw [raws, List.map_filterMap]
      simp only [List.filterMap_cons, component?_eq_some acceptedX, component?_eq_some acceptedY,
        component?_eq_some acceptedZ, List.filterMap_nil]
      cases z' <;> rfl

theorem components_of_asVector2? {v : Vector2} (accepted : asVector2? j = some v) :
    (FieldValue.vector2 v).components = (writtenDoubles j).map narrow := by
  unfold asVector2? at accepted
  split at accepted
  case h_2 => cases accepted
  case h_1 x y parts =>
    obtain rfl := Option.some.inj accepted
    exact vectorParts?_eq_some parts

/-- A third component that is not written is stored as zero. -/
theorem components_of_asVector3? {v : Vector3} (accepted : asVector3? j = some v) :
    (FieldValue.vector3 v).components = (writtenDoubles j).map narrow ∨
      (FieldValue.vector3 v).components = (writtenDoubles j).map narrow ++ [0] := by
  obtain ⟨⟨x, y, z⟩, parts, rfl⟩ := Option.map_eq_some_iff.mp accepted
  rw [← vectorParts?_eq_some parts]
  cases z with
  | some z => exact .inl rfl
  | none => exact .inr rfl

/-- What holds of zero holds of all components that are stored when it holds of the written ones. -/
theorem forall_components_iff {p : Float32 → Prop} {stored : List Float32} (zero : p 0)
    (same : stored = (writtenDoubles j).map narrow ∨
      stored = (writtenDoubles j).map narrow ++ [0]) :
    (∀ x ∈ stored, p x) ↔ ∀ x ∈ writtenDoubles j, p (narrow x) := by
  rcases same with rfl | rfl
  · exact List.forall_mem_map
  · rw [List.forall_mem_append, List.forall_mem_map, List.forall_mem_singleton,
      and_iff_left zero]

/-! ## All values -/

/-- How the stored value of a vector follows from what is written: no component is not-a-number, and
all are finite exactly when all that is written fits singles. -/
structure StoresVector (j : Json) (v : FieldValue) : Prop where
  written : v.components = (writtenDoubles j).map narrow ∨
    v.components = (writtenDoubles j).map narrow ++ [0]
  finite : ∀ x ∈ writtenDoubles j, x.isFinite = true
  number : ∀ x ∈ v.components, x.isNaN = false
  infinite : (∀ x ∈ v.components, x.isFinite = true) ↔ ∀ x ∈ writtenDoubles j, FitsSingle x

theorem storesVector {v : FieldValue} (written : v.components = (writtenDoubles j).map narrow ∨
    v.components = (writtenDoubles j).map narrow ++ [0]) : StoresVector j v := by
  have finite : ∀ x ∈ writtenDoubles j, x.isFinite = true := fun x => isFinite_of_written
  refine ⟨written, finite, ?_, ?_⟩
  · rw [forall_components_iff (p := fun x => x.isNaN = false) (by decide +kernel) written]
    exact fun x inside => (narrow_of_isFinite (finite x inside)).1
  · rw [forall_components_iff (p := fun x => x.isFinite = true) (by decide +kernel) written]
    exact forall₂_congr fun x inside => (narrow_of_isFinite (finite x inside)).2

/-- How fields store numbers. -/
structure StoresNumbers (takes : FieldKind → Json → FieldValue → Prop) : Prop where
  float : ∀ j v, takes .float j v → ∃ x, v = .float x ∧ asFloat? j = some x ∧ x.isFinite = true
  vector2 : ∀ j v, takes .vector2 j v → v.kind = .vector2 ∧ StoresVector j v
  vector3 : ∀ j v, takes .vector3 j v → v.kind = .vector3 ∧ StoresVector j v

theorem orNotConvertible_eq_ok {α : Type} {wanted : String} {wrap : α → FieldValue}
    {result : Option α} {v : FieldValue} :
    orNotConvertible j wanted wrap result = .ok v ↔ ∃ a, result = some a ∧ wrap a = v := by
  cases result with
  | none => simp [orNotConvertible]
  | some a => simp [orNotConvertible]

/-- What a field of numbers stores is finite, and so are the components of a vector unless one that is
written is rounded beyond the singles. -/
theorem coerce_storesNumbers (graph : Scene.Graph) (layers : LayerTable)
    (context : Option EntityId) :
    StoresNumbers fun kind j v => coerce graph layers context kind j = .ok v := by
  refine ⟨?float, ?vector2, ?vector3⟩
  case float =>
    intro j v taken
    obtain ⟨x, accepted, rfl⟩ := orNotConvertible_eq_ok.mp taken
    exact ⟨x, rfl, accepted, isFinite_of_asFloat? accepted⟩
  case vector2 =>
    intro j v taken
    obtain ⟨stored, accepted, rfl⟩ := orNotConvertible_eq_ok.mp taken
    exact ⟨rfl, storesVector (.inl (components_of_asVector2? accepted))⟩
  case vector3 =>
    intro j v taken
    obtain ⟨stored, accepted, rfl⟩ := orNotConvertible_eq_ok.mp taken
    exact ⟨rfl, storesVector (components_of_asVector3? accepted)⟩

/-- Two finite numbers are always accepted. -/
theorem coerce_vector2_numbers {a b : JsonNumber} (finiteA : (doubleOfNumber a).isFinite = true)
    (finiteB : (doubleOfNumber b).isFinite = true) (graph : Scene.Graph) (layers : LayerTable)
    (context : Option EntityId) :
    coerce graph layers context .vector2 (.array [.number a, .number b]) =
      .ok (.vector2 ⟨narrow (doubleOfNumber a), narrow (doubleOfNumber b)⟩) := by
  refine orNotConvertible_eq_ok.mpr ⟨_, ?_, rfl⟩
  simp only [asVector2?, vectorParts?, rawComponents?, component?, asFloat?, Option.filter_some,
    finiteA, finiteB, if_true, Option.map_some]

theorem coerce_stores_infinity :
    ∃ v, coerce .empty .builtin none .vector2 (.array [.number (.float 1e39), .number (.int 0)]) =
      .ok v ∧ ∃ x ∈ v.components, x.isFinite = false := by
  have large : (doubleOfNumber (.float 1e39)).isFinite = true := by decide +kernel
  have zero : (doubleOfNumber (.int 0)).isFinite = true := by decide +kernel
  have infinite : (narrow (doubleOfNumber (.float 1e39))).isFinite = false := by decide +kernel
  refine ⟨_, coerce_vector2_numbers large zero .empty .builtin none, ?_⟩
  simp only [FieldValue.components, List.mem_cons, exists_eq_or_imp, infinite, true_or]

end Behavior

end GameScenes
