import GameScenes.Proofs.Behavior.Dressing
import GameScenes.Proofs.Text.Dictionary
import GameScenes.Proofs.Text.Trimming

/-!
# Explicit parameters

Parameters are bound one after the other, in ascending order of their keys, and each one that is
bound to a field replaces what was bound to it before: a field keeps the value of the last such
parameter (`get?_bindExplicit`).
-/

set_option autoImplicit false

namespace GameScenes.Behavior

open Dictionary (Ascending)
open Document (Binding)
open Scene (Graph)

/-- That a binder either stores a value in its field or refuses it, and does nothing else. -/
def Binder.Storing (bind : Binder) : Prop :=
  ∀ i schema value, bind i schema value = (i.set schema.name value .explicit, none) ∨
    ∃ reason, bind i schema value = (i, some reason)

theorem storing_acceptAll : acceptAll.Storing := fun _ _ _ => .inl rfl

theorem storing_refuseNegative : refuseNegative.Storing := by
  intro i schema value
  unfold refuseNegative
  split
  · exact .inr ⟨_, rfl⟩
  · exact .inl rfl

/-- That a parameter is bound to a field of an instance: its key selects the field, and it has a value
that becomes one of the type of the field and that the behavior does not refuse. -/
structure Binds (site : BindingSite) (d : Descriptor) (i : Instance) (parameter : String × Json)
    (field : String) (value : FieldValue) : Prop where
  given : parameter.2.isNull = false
  taken : ∃ schema, d.field? parameter.1 = some schema ∧ schema.name = field ∧
    coerce site.graph site.layers (some site.entity) schema.kind parameter.2 = .ok value ∧
    (d.bind i schema value).2 = none

/-- That the parameter at a position is bound to a field after those before it. -/
def BoundAt (site : BindingSite) (d : Descriptor) (i : Instance)
    (parameters : List (String × Json)) (position : Nat) (field : String) (value : FieldValue) :
    Prop :=
  ∃ parameter, parameters[position]? = some parameter ∧
    Binds site d (bindExplicit site d i (parameters.take position)).1 parameter field value

/-- That no parameter after a position is bound to a field. -/
def NoneBoundAfter (site : BindingSite) (d : Descriptor) (i : Instance)
    (parameters : List (String × Json)) (position : Nat) (field : String) : Prop :=
  ∀ later value, position < later → ¬ BoundAt site d i parameters later field value

/-- That the last parameter that is bound to a field gives it a value. -/
def LastBound (site : BindingSite) (d : Descriptor) (i : Instance)
    (parameters : List (String × Json)) (field : String) (value : FieldValue) : Prop :=
  ∃ position, BoundAt site d i parameters position field value ∧
    NoneBoundAfter site d i parameters position field

variable {site : BindingSite} {d : Descriptor} {i : Instance} {field : String}
  {value : FieldValue}

/-! ## One parameter -/

section

variable {parameter : String × Json}

theorem Binds.unique {other : String} {again : FieldValue}
    (binds : Binds site d i parameter field value) (same : Binds site d i parameter other again) :
    field = other ∧ value = again := by
  obtain ⟨-, schema, selected, rfl, coerced, -⟩ := binds
  obtain ⟨-, schema', selected', rfl, coerced', -⟩ := same
  rw [selected] at selected'
  cases selected'
  rw [coerced] at coerced'
  cases coerced'
  exact ⟨rfl, rfl⟩

theorem bindParameter_of_binds (storing : d.bind.Storing)
    (binds : Binds site d i parameter field value) :
    (bindParameter site d i parameter.1 parameter.2).1 = i.set field value .explicit := by
  obtain ⟨given, schema, selected, rfl, coerced, accepted⟩ := binds
  simp only [bindParameter, selected, given, coerced, Bool.false_eq_true, if_false]
  rcases storing i schema value with stored | ⟨reason, refused⟩
  · exact congrArg Prod.fst stored
  · rw [refused] at accepted
    cases accepted

theorem bindParameter_of_not_binds (storing : d.bind.Storing)
    (free : ∀ field value, ¬ Binds site d i parameter field value) :
    (bindParameter site d i parameter.1 parameter.2).1 = i := by
  unfold bindParameter
  split
  · rfl
  next schema selected =>
    split
    · rfl
    next given =>
      dsimp only
      split
      · rfl
      next value coerced =>
        rcases storing i schema value with stored | ⟨reason, refused⟩
        · refine absurd ⟨Bool.eq_false_iff.mpr given, schema, selected, rfl, coerced, ?_⟩
            (free schema.name value)
          rw [stored]
        · exact congrArg Prod.fst refused

/-- A parameter decides the field that it is bound to, and no other one. -/
theorem get?_bindParameter (storing : d.bind.Storing) (field : String) (b : FieldBinding) :
    (bindParameter site d i parameter.1 parameter.2).1.fields.get? field = some b ↔
      (b.source = .explicit ∧ Binds site d i parameter field b.value) ∨
        ((∀ value, ¬ Binds site d i parameter field value) ∧ i.fields.get? field = some b) := by
  by_cases bound : ∃ other value, Binds site d i parameter other value
  · obtain ⟨other, value, binds⟩ := bound
    rw [bindParameter_of_binds storing binds, Instance.set, Dictionary.get?_insert]
    by_cases own : field = other
    · subst own
      rw [if_pos rfl]
      constructor
      · rintro same
        cases same
        exact .inl ⟨rfl, binds⟩
      · rintro (⟨explicit, same⟩ | ⟨free, -⟩)
        · obtain ⟨-, rfl⟩ := binds.unique same
          rw [← explicit]
        · exact absurd binds (free value)
    · rw [if_neg own]
      have free : ∀ value, ¬ Binds site d i parameter field value :=
        fun _ same => own (same.unique binds).1
      constructor
      · exact fun kept => .inr ⟨free, kept⟩
      · rintro (⟨-, same⟩ | ⟨-, kept⟩)
        · exact absurd same (free _)
        · exact kept
  · have free : ∀ field value, ¬ Binds site d i parameter field value :=
      fun field value binds => bound ⟨field, value, binds⟩
    rw [bindParameter_of_not_binds storing free]
    constructor
    · exact fun kept => .inr ⟨free field, kept⟩
    · rintro (⟨-, same⟩ | ⟨-, kept⟩)
      · exact absurd same (free field _)
      · exact kept

end

/-! ## All parameters -/

section

variable {parameters : List (String × Json)} {position : Nat}

theorem BoundAt.lt (bound : BoundAt site d i parameters position field value) :
    position < parameters.length := by
  obtain ⟨parameter, there, -⟩ := bound
  exact (List.getElem?_eq_some_iff.mp there).1

theorem BoundAt.unique {other : String} {again : FieldValue}
    (bound : BoundAt site d i parameters position field value)
    (same : BoundAt site d i parameters position other again) : field = other ∧ value = again := by
  obtain ⟨parameter, there, binds⟩ := bound
  obtain ⟨parameter', there', binds'⟩ := same
  rw [there] at there'
  cases there'
  exact binds.unique binds'

/-- A further parameter changes nothing of how those before it are bound. -/
theorem boundAt_concat (parameter : String × Json) :
    BoundAt site d i (parameters ++ [parameter]) position field value ↔
      BoundAt site d i parameters position field value ∨
        position = parameters.length ∧
          Binds site d (bindExplicit site d i parameters).1 parameter field value := by
  unfold BoundAt
  rcases Nat.lt_trichotomy position parameters.length with before | rfl | behind
  · have other : position ≠ parameters.length := Nat.ne_of_lt before
    rw [List.getElem?_append_left before, List.take_append_of_le_length (Nat.le_of_lt before)]
    simp [other]
  · rw [List.getElem?_concat_length, List.take_left]
    simp
  · have other : position ≠ parameters.length := Nat.ne_of_gt behind
    have beyond : parameters.length + 1 ≤ position := behind
    simp [other, Nat.le_of_lt behind, List.getElem?_append_right, Nat.sub_ne_zero_of_lt behind]

theorem lastBound_concat (parameter : String × Json) :
    LastBound site d i (parameters ++ [parameter]) field value ↔
      Binds site d (bindExplicit site d i parameters).1 parameter field value ∨
        (∀ again, ¬ Binds site d (bindExplicit site d i parameters).1 parameter field again) ∧
          LastBound site d i parameters field value := by
  constructor
  · rintro ⟨position, bound, last⟩
    rcases (boundAt_concat parameter).mp bound with before | ⟨-, binds⟩
    · refine .inr ⟨fun again binds => ?_, position, before, fun later again behind same => ?_⟩
      · exact last _ again before.lt ((boundAt_concat parameter).mpr (.inr ⟨rfl, binds⟩))
      · exact last later again behind ((boundAt_concat parameter).mpr (.inl same))
    · exact .inl binds
  · rintro (binds | ⟨free, position, bound, last⟩)
    · refine ⟨parameters.length, (boundAt_concat parameter).mpr (.inr ⟨rfl, binds⟩), ?_⟩
      intro later again behind same
      have inside := same.lt
      rw [List.length_append, List.length_singleton] at inside
      exact absurd behind (Nat.not_lt.mpr (Nat.lt_succ_iff.mp inside))
    · refine ⟨position, (boundAt_concat parameter).mpr (.inl bound), ?_⟩
      intro later again behind same
      rcases (boundAt_concat parameter).mp same with before | ⟨-, binds⟩
      · exact last later again behind before
      · exact free again binds

theorem noneBound_concat (parameter : String × Json) :
    (∀ position value, ¬ BoundAt site d i (parameters ++ [parameter]) position field value) ↔
      (∀ value, ¬ Binds site d (bindExplicit site d i parameters).1 parameter field value) ∧
        ∀ position value, ¬ BoundAt site d i parameters position field value := by
  simp only [boundAt_concat, not_or]
  constructor
  · exact fun free => ⟨fun value binds => (free _ value).2 ⟨rfl, binds⟩,
      fun position value => (free position value).1⟩
  · rintro ⟨last, before⟩ position value
    exact ⟨before position value, fun same => last value same.2⟩

/-- A field holds the value of the last parameter that is bound to it, and what it held before if
there is none. -/
theorem get?_bindExplicit (storing : d.bind.Storing) (parameters : List (String × Json))
    (field : String) (b : FieldBinding) :
    (bindExplicit site d i parameters).1.fields.get? field = some b ↔
      (b.source = .explicit ∧ LastBound site d i parameters field b.value) ∨
        ((∀ position value, ¬ BoundAt site d i parameters position field value) ∧
          i.fields.get? field = some b) := by
  -- from the back, as it is the last parameter that decides
  induction parameters using List.reverseRecOn with
  | nil =>
      have none : ∀ position value, ¬ BoundAt site d i [] position field value :=
        fun position value bound => Nat.not_lt_zero position bound.lt
      constructor
      · exact fun kept => .inr ⟨none, kept⟩
      · rintro (⟨-, position, bound, -⟩ | ⟨-, kept⟩)
        · exact (none _ _ bound).elim
        · exact kept
  | append_singleton front parameter ih =>
      have step : (bindExplicit site d i (front ++ [parameter])).1 =
          (bindParameter site d (bindExplicit site d i front).1 parameter.1 parameter.2).1 := by
        rw [bindExplicit_append]
        rfl
      rw [step, get?_bindParameter storing, ih, lastBound_concat, noneBound_concat]
      tauto

theorem LastBound.unique {again : FieldValue} (last : LastBound site d i parameters field value)
    (same : LastBound site d i parameters field again) : value = again := by
  obtain ⟨m, bound, none⟩ := last
  obtain ⟨n, bound', none'⟩ := same
  rcases Nat.lt_trichotomy m n with before | rfl | behind
  · exact absurd bound' (none n again before)
  · exact (bound.unique bound').2
  · exact absurd bound (none' m value behind)

theorem exists_lastBound (bound : BoundAt site d i parameters position field value) :
    ∃ again, LastBound site d i parameters field again := by
  induction parameters using List.reverseRecOn with
  | nil => exact absurd bound.lt (Nat.not_lt_zero position)
  | append_singleton front parameter ih =>
      by_cases binds : ∃ again, Binds site d (bindExplicit site d i front).1 parameter field again
      · obtain ⟨again, binds⟩ := binds
        exact ⟨again, (lastBound_concat parameter).mpr (.inl binds)⟩
      · rcases (boundAt_concat parameter).mp bound with before | ⟨-, own⟩
        · obtain ⟨again, last⟩ := ih before
          have free : ∀ value, ¬ Binds site d (bindExplicit site d i front).1 parameter field value :=
            fun value other => binds ⟨value, other⟩
          exact ⟨again, (lastBound_concat parameter).mpr (.inr ⟨free, last⟩)⟩
        · exact absurd ⟨value, own⟩ binds

end

/-! ## Exact keys -/

/-- That a parameter takes a field from the one whose key is its exact name: its key differs from the
name in the case of letters only and comes later in the order of the keys, and it is the last one that
is bound to the field. -/
structure Overrides (site : BindingSite) (d : Descriptor) (i : Instance)
    (parameters : List (String × Json)) (field : String) (other : String × Json)
    (value : FieldValue) : Prop where
  later : field < other.1
  alike : Text.sameLetters field other.1 = true
  last : ∃ position, parameters[position]? = some other ∧
    BoundAt site d i parameters position field value ∧
    NoneBoundAfter site d i parameters position field

/-- A key selects a field whose name is the same up to the case of letters. -/
theorem Descriptor.sameLetters_of_field? {key : String} {schema : FieldSchema}
    (selected : d.field? key = some schema) : Text.sameLetters schema.name key = true := by
  rcases Option.or_eq_some_iff.mp selected with exact_ | ⟨-, alike⟩
  · have same : schema.name = key :=
      beq_iff_eq.mp (List.find?_eq_some_iff_append.mp exact_).1
    rw [same, Text.sameLetters_self]
  · exact (List.find?_eq_some_iff_append.mp alike).1

/-- The value of the parameter with the exact key is kept unless another one overrides it. -/
theorem lastBound_exact_iff {parameters : List (String × Json)} {position : Nat} {raw : Json}
    (ascending : Ascending parameters) (spelled : parameters[position]? = some (field, raw))
    (bound : BoundAt site d i parameters position field value) :
    LastBound site d i parameters field value ↔
      ∀ other again, Overrides site d i parameters field other again → again = value := by
  constructor
  · rintro last other again ⟨-, -, n, -, bound', none⟩
    exact LastBound.unique ⟨n, bound', none⟩ last
  · intro kept
    obtain ⟨again, last⟩ := exists_lastBound bound
    obtain ⟨n, bound', none⟩ := last
    rcases Nat.lt_trichotomy position n with before | rfl | behind
    · obtain ⟨other, there, binds⟩ := bound'
      obtain ⟨schema, selected, rfl, -⟩ := binds.taken
      have overrides : Overrides site d i parameters schema.name other again :=
        ⟨ascending.lt_of_lt spelled there before, Descriptor.sameLetters_of_field? selected, n, there,
          ⟨other, there, binds⟩, none⟩
      rw [← kept other again overrides]
      exact ⟨n, ⟨other, there, binds⟩, none⟩
    · rw [(bound.unique bound').2]
      exact ⟨position, bound', none⟩
    · exact absurd bound (none position value behind)

/-! ## Wiring -/

/-- Wiring never touches a field that is set. -/
theorem wireField_keeps (layers : LayerTable) (entity : EntityId) (g : Graph)
    (schema : FieldSchema) {b : FieldBinding} (set : i.fields.get? field = some b) :
    (wireField layers entity (g, i) schema).2.fields.get? field = some b := by
  unfold wireField
  dsimp only
  split
  · exact set
  next unset =>
    have other : field ≠ schema.name := by
      rintro rfl
      exact unset (by rw [Instance.isSet, Dictionary.contains, set]; rfl)
    split
    · exact set
    all_goals rw [Instance.set, Dictionary.get?_insert, if_neg other, set]

theorem wireFields_keeps (layers : LayerTable) (entity : EntityId) (schemas : List FieldSchema)
    (g : Graph) {b : FieldBinding} (set : i.fields.get? field = some b) :
    (schemas.foldl (wireField layers entity) (g, i)).2.fields.get? field = some b := by
  induction schemas generalizing g i with
  | nil => exact set
  | cons schema rest ih => exact ih _ (wireField_keeps layers entity g schema set)

/-- The last parameter that is bound to a field decides it. -/
theorem Registered.wired_of_lastBound {r : Registered} (storing : r.descriptor.bind.Storing)
    {parameters : List (String × Json)}
    (last : LastBound site r.descriptor r.blank parameters field value) :
    (r.wired site parameters).2.fields.get? field = some ⟨value, .explicit⟩ :=
  wireFields_keeps site.layers site.entity r.descriptor.fields site.graph
    ((get?_bindExplicit storing parameters field ⟨value, .explicit⟩).mpr (.inl ⟨rfl, last⟩))

/-- A field that is spelled exactly is bound explicitly, and to the value that stands under its exact
name unless a later key that differs from it in the case of letters only overrides it. -/
theorem attach_keeps_exact_iff (index : Index) (layers : LayerTable) {g : Graph}
    {entity : EntityId} (inside : entity < g.size) (front back : List Binding) {binding : Binding}
    {r : Registered} (found : index.lookup binding.name = .ok r)
    (storing : r.descriptor.bind.Storing) (ascending : Ascending binding.parameters)
    {position : Nat} {raw : Json} (spelled : binding.parameters[position]? = some (field, raw))
    (bound : BoundAt (siteAfter index layers g entity front) r.descriptor r.blank binding.parameters
      position field value) :
    ∃ i, Given index entity g (attach index layers g entity (front ++ binding :: back)).1 front i ∧
      i.source? field = some .explicit ∧
      (i.get? field = some value ↔ ∀ other again,
        Overrides (siteAfter index layers g entity front) r.descriptor r.blank binding.parameters
          field other again → again = value) := by
  obtain ⟨-, -, -, -, given⟩ := attach_gives index layers inside front back found rfl
  refine ⟨_, given, ?_⟩
  obtain ⟨again, last⟩ := exists_lastBound bound
  have holds := Registered.wired_of_lastBound storing last
  rw [Instance.source?, Instance.get?, holds, ← lastBound_exact_iff ascending spelled bound]
  refine ⟨rfl, ?_⟩
  rw [Option.map_some, Option.some.injEq]
  exact ⟨fun same => same ▸ last, last.unique⟩

/-! ## A coin with two scores -/

def coinGraph : Graph := (Graph.empty.spawn "Coin" none).1

def builtinIndex : Index := Index.ofCatalogs [builtinCatalog] []

/-- A score under its exact name and another one under a name without the capital. -/
def scoredTwice : Binding :=
  ⟨"Collectible", [("scoreValue", .number (.int 1)), ("scorevalue", .number (.int 2))]⟩

def collectible : Registered :=
  ⟨builtinModule, describe "Collectible" acceptAll
    [("scoreValue", .int), ("collectorTag", .text), ("spinSpeed", .float)]⟩

theorem lookup_collectible : builtinIndex.lookup scoredTwice.name = .ok collectible := by rfl

theorem attach_keeps_exact_iff_score :
    0 < coinGraph.size ∧ collectible.descriptor.bind.Storing ∧ Ascending scoredTwice.parameters ∧
      BoundAt (siteAfter builtinIndex .builtin coinGraph 0 []) collectible.descriptor
        collectible.blank scoredTwice.parameters 0 "scoreValue" (.int 1) ∧
      ∃ i, Given builtinIndex 0 coinGraph
          (attach builtinIndex .builtin coinGraph 0 [scoredTwice]).1 [] i ∧
        i.source? "scoreValue" = some .explicit ∧
        (i.get? "scoreValue" = some (.int 1) ↔ ∀ other again,
          Overrides (siteAfter builtinIndex .builtin coinGraph 0 []) collectible.descriptor
            collectible.blank scoredTwice.parameters "scoreValue" other again →
              again = .int 1) := by
  have inside : 0 < coinGraph.size := by decide
  have ascending : Ascending scoredTwice.parameters := by
    refine List.pairwise_pair.mpr ?_
    decide
  have bound : BoundAt (siteAfter builtinIndex .builtin coinGraph 0 []) collectible.descriptor
      collectible.blank scoredTwice.parameters 0 "scoreValue" (.int 1) :=
    ⟨("scoreValue", .number (.int 1)), rfl, rfl, ⟨"scoreValue", .int⟩, rfl, rfl, rfl, rfl⟩
  exact ⟨inside, storing_acceptAll, ascending, bound,
    attach_keeps_exact_iff builtinIndex .builtin inside [] [] lookup_collectible storing_acceptAll
      ascending rfl bound⟩

/-- The whole number that a value is. -/
def FieldValue.whole? : FieldValue → Option Int
  | int value => some value
  | _ => none

/-- The whole numbers that a field holds in the behaviors of an entity. -/
def wholesOf (g : Graph) (entity : EntityId) (field : String) : Option (List (Option Int)) :=
  (g.get? entity).map fun e => e.components.behaviors.map fun i => (i.get? field).bind (·.whole?)

/-- The score under the exact name is stored, but not beside one whose name lacks the capital. -/
theorem attach_overrides_exact_score :
    wholesOf (attach builtinIndex .builtin coinGraph 0
        [⟨"Collectible", [("scoreValue", .number (.int 1))]⟩]).1 0 "scoreValue" = some [some 1] ∧
      scoredTwice.parameters[0]? = some ("scoreValue", .number (.int 1)) ∧
      wholesOf (attach builtinIndex .builtin coinGraph 0 [scoredTwice]).1 0 "scoreValue" =
        some [some 2] :=
  ⟨by decide +kernel, rfl, by decide +kernel⟩

end GameScenes.Behavior
