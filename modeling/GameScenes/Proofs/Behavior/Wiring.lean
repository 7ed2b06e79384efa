import GameScenes.Proofs.Behavior.Anchors
import GameScenes.Proofs.Behavior.Explicit
import GameScenes.Proofs.Text.Trimming

/-!
# Wired fields

A field that no parameter is bound to is wired exactly if it follows a convention, and then it has
the value of the convention.  What parameters are bound to is never wired, and what follows no
convention stays without a value (`attach_wires`).
-/

set_option autoImplicit false

namespace GameScenes.Behavior

open Document (Binding)
open Scene (Graph)

variable {layers : LayerTable} {g h : Graph} {entity : EntityId} {anchor other : EntityId → Prop}
  {schema : FieldSchema} {value : FieldValue} {i j : Instance} {field : String}

/-! ## Conventions -/

/-- The conventions with the values that they give: the mask of the layer of the ground, the ground
check of the entity, and its own body. -/
inductive Convention (layers : LayerTable) (g : Graph) (entity : EntityId)
    (anchor : EntityId → Prop) (schema : FieldSchema) : FieldValue → Prop
  | mask {slot : Nat} (kind : schema.kind = .layerMask) (named : Text.HasPart schema.name "ground")
      (registered : layers.indexOf? groundLayerName = some slot) :
      Convention layers g entity anchor schema (.layerMask (1 <<< UInt32.ofNat slot))
  | check {a : EntityId} (kind : schema.kind = .entity)
      (named : Text.HasPart schema.name "groundcheck") (found : anchor a) :
      Convention layers g entity anchor schema (.entity a)
  | place {a : EntityId} (kind : schema.kind = .component .transform)
      (named : Text.HasPart schema.name "groundcheck") (found : anchor a) :
      Convention layers g entity anchor schema (.component a .transform)
  | body (kind : schema.kind = .component .body) (present : hasComponent g entity .body = true) :
      Convention layers g entity anchor schema (.component entity .body)

/-- That there is a convention for a field. -/
def Follows (layers : LayerTable) (g : Graph) (entity : EntityId) (schema : FieldSchema) : Prop :=
  ∃ value, Convention layers g entity (fun _ => True) schema value

theorem Convention.imp (convention : Convention layers g entity anchor schema value)
    (same : hasComponent h entity .body = hasComponent g entity .body)
    (weaker : ∀ a, anchor a → other a) : Convention layers h entity other schema value := by
  cases convention with
  | mask kind named registered => exact .mask kind named registered
  | check kind named found => exact .check kind named (weaker _ found)
  | place kind named found => exact .place kind named (weaker _ found)
  | body kind present => exact .body kind (same ▸ present)

theorem Convention.follows (convention : Convention layers g entity anchor schema value) :
    Follows layers g entity schema :=
  ⟨value, convention.imp rfl fun _ _ => trivial⟩

theorem mentions_ground_iff (s : String) :
    Text.mentions (Text.lower s) "ground" = true ↔ Text.HasPart s "ground" :=
  Text.mentions_lower_iff (by decide)

theorem mentions_groundCheck_iff (s : String) :
    Text.mentions (Text.lower s) "groundcheck" = true ↔ Text.HasPart s "groundcheck" :=
  Text.mentions_lower_iff (by decide)

/-- What a wiring says of the convention for a field. -/
def Wiring.Fits (layers : LayerTable) (g : Graph) (entity : EntityId) (schema : FieldSchema) :
    Wiring → Prop
  | .nothing => ¬ Follows layers g entity schema
  | .value v => ∀ anchor, Convention layers g entity anchor schema v
  | .groundCheckEntity => ∀ anchor a, anchor a → Convention layers g entity anchor schema (.entity a)
  | .groundCheckTransform => ∀ anchor a, anchor a →
      Convention layers g entity anchor schema (.component a .transform)

theorem wiringOf_fits (layers : LayerTable) (g : Graph) (entity : EntityId)
    (schema : FieldSchema) : (wiringOf g layers entity schema).Fits layers g entity schema := by
  obtain ⟨name, kind⟩ := schema
  have free : ∀ {kind : FieldKind}, (∀ value, ¬ Convention layers g entity (fun _ => True)
      ⟨name, kind⟩ value) → Wiring.nothing.Fits layers g entity ⟨name, kind⟩ :=
    fun none_ ⟨value, convention⟩ => none_ value convention
  unfold wiringOf
  dsimp only
  split
  · split
    next named =>
      rw [mentions_ground_iff] at named
      unfold LayerTable.maskFor?
      cases registered : layers.indexOf? groundLayerName with
      | none =>
          refine free ?_
          rintro value (⟨-, -, there⟩ | ⟨⟨⟩⟩ | ⟨⟨⟩⟩ | ⟨⟨⟩⟩)
          cases registered.symm.trans there
      | some slot => exact fun anchor => .mask rfl named registered
    next unnamed =>
      rw [mentions_ground_iff] at unnamed
      refine free ?_
      rintro value (⟨-, named, -⟩ | ⟨⟨⟩⟩ | ⟨⟨⟩⟩ | ⟨⟨⟩⟩)
      exact unnamed named
  · split
    next named => exact fun anchor a found => .check rfl ((mentions_groundCheck_iff _).mp named) found
    next unnamed =>
      rw [mentions_groundCheck_iff] at unnamed
      refine free ?_
      rintro value (⟨⟨⟩⟩ | ⟨-, named⟩ | ⟨⟨⟩⟩ | ⟨⟨⟩⟩)
      exact unnamed named
  · split
    next named => exact fun anchor a found => .place rfl ((mentions_groundCheck_iff _).mp named) found
    next unnamed =>
      rw [mentions_groundCheck_iff] at unnamed
      refine free ?_
      rintro value (⟨⟨⟩⟩ | ⟨⟨⟩⟩ | ⟨-, named⟩ | ⟨⟨⟩⟩)
      exact unnamed named
  · split
    next present => exact fun anchor => .body rfl present
    next bodiless =>
      refine free ?_
      rintro value (⟨⟨⟩⟩ | ⟨⟨⟩⟩ | ⟨⟨⟩⟩ | ⟨-, present⟩)
      exact bodiless present
  next mask check place body =>
    refine free ?_
    rintro value (⟨same⟩ | ⟨same⟩ | ⟨same⟩ | ⟨same⟩)
    · exact mask same
    · exact check same
    · exact place same
    · exact body same

/-! ## One field -/

theorem Instance.isSet_eq (i : Instance) (field : String) :
    i.isSet field = (i.fields.get? field).isSome := rfl

/-- Wiring leaves a field that is set or follows no convention, and gives any other field the value
of its convention. -/
theorem wireField_cases (layers : LayerTable) (entity : EntityId) (g : Graph) (i : Instance)
    (schema : FieldSchema) :
    (wireField layers entity (g, i) schema = (g, i) ∧
        (i.fields.get? schema.name ≠ none ∨ ¬ Follows layers g entity schema)) ∨
      (i.fields.get? schema.name = none ∧ ∃ h value,
        Convention layers g entity (EnsuredBetween entity g h) schema value ∧
        wireField layers entity (g, i) schema = (h, i.set schema.name value .autoWired)) := by
  have ensured : EnsuredBetween entity g (ensureGroundCheck g entity).1
      (ensureGroundCheck g entity).2 := ⟨g, [], [], .done g, rfl, .done _⟩
  have fits := wiringOf_fits layers g entity schema
  unfold wireField
  dsimp only
  split
  next set =>
    rw [Instance.isSet_eq, Option.isSome_iff_ne_none] at set
    exact .inl ⟨rfl, .inl set⟩
  next unset =>
    rw [Instance.isSet_eq, Bool.not_eq_true, Option.isSome_eq_false_iff,
      Option.isNone_iff_eq_none] at unset
    generalize wiringOf g layers entity schema = wiring at fits
    cases wiring with
    | nothing => exact .inl ⟨rfl, .inr fits⟩
    | value value => exact .inr ⟨unset, g, value, fits _, rfl⟩
    | groundCheckEntity => exact .inr ⟨unset, _, _, fits _ _ ensured, rfl⟩
    | groundCheckTransform => exact .inr ⟨unset, _, _, fits _ _ ensured, rfl⟩

/-! ## All fields -/

/-- That an instance becomes another one when its fields are wired: what is set is kept, and of the
rest just the fields that follow a convention are given the value of one. -/
structure Completes (layers : LayerTable) (g : Graph) (entity : EntityId)
    (schemas : List FieldSchema) (anchor : EntityId → Prop) (i j : Instance) : Prop where
  kept : ∀ field b, i.fields.get? field = some b → j.fields.get? field = some b
  wired : ∀ field b, i.fields.get? field = none → j.fields.get? field = some b →
    b.source = .autoWired ∧ ∃ schema ∈ schemas, schema.name = field ∧
      Convention layers g entity anchor schema b.value
  complete : ∀ schema ∈ schemas, Follows layers g entity schema →
    j.fields.get? schema.name ≠ none

theorem Completes.imp {schemas : List FieldSchema}
    (completes : Completes layers g entity schemas anchor i j)
    (same : hasComponent h entity .body = hasComponent g entity .body)
    (weaker : ∀ a, anchor a → other a) : Completes layers h entity schemas other i j where
  kept := completes.kept
  wired field b unset set := by
    obtain ⟨source, schema, member, named, convention⟩ := completes.wired field b unset set
    exact ⟨source, schema, member, named, convention.imp same weaker⟩
  complete schema member follows := by
    obtain ⟨value, convention⟩ := follows
    exact completes.complete schema member ⟨value, convention.imp same.symm fun _ _ => trivial⟩

theorem Completes.cons (inside : entity < g.size) {schemas : List FieldSchema}
    {final : Graph}
    (rest : Completes layers (wireField layers entity (g, i) schema).1 entity schemas
      (EnsuredBetween entity (wireField layers entity (g, i) schema).1 final)
      (wireField layers entity (g, i) schema).2 j)
    (onward : Dressing entity (wireField layers entity (g, i) schema).1 [] final) :
    Completes layers g entity (schema :: schemas) (EnsuredBetween entity g final) i j := by
  have first : Dressing entity g [] (wireField layers entity (g, i) schema).1 :=
    wireField_dressing layers g i schema
  have body := first.hasBody inside
  have step := wireField_cases layers entity g i schema
  refine ⟨?kept, ?wired, ?complete⟩
  case kept => exact fun field b set => rest.kept field b (wireField_keeps layers entity g schema set)
  case wired =>
    intro field b unset final_
    cases next : (wireField layers entity (g, i) schema).2.fields.get? field with
    | none =>
        obtain ⟨source, other, member, named, convention⟩ := rest.wired field b next final_
        refine ⟨source, other, List.mem_cons_of_mem _ member, named, ?_⟩
        exact convention.imp body.symm fun a ensured => ensured.between first (.done final)
    | some c =>
        -- the field is set by this very step, and what comes after leaves it
        obtain rfl : b = c := Option.some.inj (final_.symm.trans (rest.kept field c next))
        rcases step with ⟨same, -⟩ | ⟨-, grown, value, convention, stored⟩
        · rw [same, unset] at next
          cases next
        · rw [stored] at next onward
          rw [Instance.set, Dictionary.get?_insert] at next
          split at next
          next own =>
            cases next
            refine ⟨rfl, schema, List.mem_cons_self .., own.symm, convention.imp rfl ?_⟩
            exact fun a ensured => ensured.between (.done g) onward
          next =>
            rw [unset] at next
            cases next
  case complete =>
    intro other member follows
    rcases List.mem_cons.mp member with rfl | later
    · have set : (wireField layers entity (g, i) other).2.fields.get? other.name ≠ none := by
        rcases step with ⟨same, reason⟩ | ⟨-, grown, value, -, stored⟩
        · rw [same]
          exact reason.resolve_right fun free => free follows
        · rw [stored, Instance.set, Dictionary.get?_insert, if_pos rfl]
          exact Option.some_ne_none _
      obtain ⟨b, there⟩ := Option.ne_none_iff_exists'.mp set
      rw [rest.kept other.name b there]
      exact Option.some_ne_none b
    · obtain ⟨value, convention⟩ := follows
      exact rest.complete other later ⟨value, convention.imp body fun _ _ => trivial⟩

theorem wireFields_completes (layers : LayerTable) (inside : entity < g.size)
    (schemas : List FieldSchema) (i : Instance) :
    Completes layers g entity schemas
      (EnsuredBetween entity g (schemas.foldl (wireField layers entity) (g, i)).1) i
      (schemas.foldl (wireField layers entity) (g, i)).2 := by
  induction schemas generalizing g i with
  | nil =>
      refine ⟨fun field b set => set, fun field b unset set => ?_, fun schema member => ?_⟩
      · cases unset.symm.trans set
      · cases member
  | cons schema rest ih =>
      have first : Dressing entity g [] (wireField layers entity (g, i) schema).1 :=
        wireField_dressing layers g i schema
      exact .cons inside (ih (Nat.lt_of_lt_of_le inside first.grows) _)
        (wireFields_dressing layers rest _ _)

/-! ## Marks of wiring -/

/-- That a binder passes no value off as wired. -/
def Binder.NeverWires (bind : Binder) : Prop :=
  ∀ i schema value field v, (bind i schema value).1.fields.get? field = some ⟨v, .autoWired⟩ →
    i.fields.get? field = some ⟨v, .autoWired⟩

theorem Binder.Storing.neverWires {bind : Binder} (storing : bind.Storing) : bind.NeverWires := by
  intro i schema value field v wired
  rcases storing i schema value with stored | ⟨reason, refused⟩
  · rw [stored, Instance.set, Dictionary.get?_insert] at wired
    split at wired
    · cases wired
    · exact wired
  · rwa [refused] at wired

theorem bindParameter_neverWires {site : BindingSite} {d : Descriptor} (never : d.bind.NeverWires)
    {name : String} {raw : Json} {field : String} {v : FieldValue}
    (wired : (bindParameter site d i name raw).1.fields.get? field = some ⟨v, .autoWired⟩) :
    i.fields.get? field = some ⟨v, .autoWired⟩ := by
  unfold bindParameter at wired
  split at wired
  · exact wired
  · split at wired
    · exact wired
    · dsimp only at wired
      split at wired
      · exact wired
      · exact never _ _ _ _ _ wired

/-- Where the binder passes nothing off as wired, what parameters leave behind is not wired. -/
theorem bindExplicit_neverWires {site : BindingSite} {d : Descriptor} (never : d.bind.NeverWires)
    (parameters : List (String × Json)) {field : String} {v : FieldValue}
    (wired : (bindExplicit site d i parameters).1.fields.get? field = some ⟨v, .autoWired⟩) :
    i.fields.get? field = some ⟨v, .autoWired⟩ := by
  induction parameters generalizing i with
  | nil => exact wired
  | cons parameter rest ih =>
      have first : (bindParameter site d i parameter.1 parameter.2).1.fields.get? field =
          some ⟨v, .autoWired⟩ := ih wired
      exact bindParameter_neverWires never first

/-! ## Attached behaviors -/

section

variable {site : BindingSite} {r : Registered} {parameters : List (String × Json)}

/-- How the fields of an instance come by their values: from the last parameters that are bound to
them, or else from conventions. -/
structure Wired (site : BindingSite) (r : Registered) (parameters : List (String × Json))
    (g : Graph) (anchor : EntityId → Prop) (i : Instance) : Prop where
  explicit : ∀ field, i.source? field = some .explicit ↔
    ∃ position value, BoundAt site r.descriptor r.blank parameters position field value
  last : ∀ field value, i.fields.get? field = some ⟨value, .explicit⟩ ↔
    LastBound site r.descriptor r.blank parameters field value
  autoWired : ∀ field, i.source? field = some .autoWired ↔ i.source? field ≠ some .explicit ∧
    ∃ schema ∈ r.descriptor.fields, schema.name = field ∧ Follows site.layers g site.entity schema
  conventional : ∀ field value, i.fields.get? field = some ⟨value, .autoWired⟩ →
    ∃ schema ∈ r.descriptor.fields, schema.name = field ∧
      Convention site.layers g site.entity anchor schema value
  unset : ∀ field, i.get? field = none ↔
    (∀ position value, ¬ BoundAt site r.descriptor r.blank parameters position field value) ∧
      ∀ schema ∈ r.descriptor.fields, schema.name = field →
        ¬ Follows site.layers g site.entity schema

/-- What is wired was not bound before, unless the binder passed it off as wired. -/
theorem Completes.unbound (never : r.descriptor.bind.NeverWires)
    (completes : Completes site.layers g site.entity r.descriptor.fields anchor
      (bindExplicit site r.descriptor r.blank parameters).1 i)
    (there : i.fields.get? field = some ⟨value, .autoWired⟩) :
    (bindExplicit site r.descriptor r.blank parameters).1.fields.get? field = none := by
  cases bound : (bindExplicit site r.descriptor r.blank parameters).1.fields.get? field with
  | none => rfl
  | some b =>
      cases there.symm.trans (completes.kept field b bound)
      cases bindExplicit_neverWires never parameters bound

/-- After the parameters the fields are bound explicitly or not at all. -/
theorem get?_bound (storing : r.descriptor.bind.Storing) (field : String) (b : FieldBinding) :
    (bindExplicit site r.descriptor r.blank parameters).1.fields.get? field = some b ↔
      b.source = .explicit ∧ LastBound site r.descriptor r.blank parameters field b.value := by
  rw [get?_bindExplicit storing, Registered.blank, Dictionary.get?_empty]
  simp

variable (storing : r.descriptor.bind.Storing)
  (completes : Completes site.layers g site.entity r.descriptor.fields anchor
    (bindExplicit site r.descriptor r.blank parameters).1 i)

include storing completes

/-- Wiring adds nothing to what the last parameters give. -/
theorem Completes.explicit_iff :
    i.fields.get? field = some ⟨value, .explicit⟩ ↔
      LastBound site r.descriptor r.blank parameters field value := by
  constructor
  · intro there
    cases bound : (bindExplicit site r.descriptor r.blank parameters).1.fields.get? field with
    | none => cases (completes.wired field _ bound there).1
    | some b =>
        cases there.symm.trans (completes.kept field b bound)
        exact ((get?_bound storing field _).mp bound).2
  · exact fun bound => completes.kept field _ ((get?_bound storing field _).mpr ⟨rfl, bound⟩)

theorem Completes.exists_explicit_iff :
    i.source? field = some .explicit ↔
      ∃ position value, BoundAt site r.descriptor r.blank parameters position field value := by
  rw [Instance.source?, Option.map_eq_some_iff]
  constructor
  · rintro ⟨⟨value, -⟩, there, rfl⟩
    obtain ⟨position, bound, -⟩ := (completes.explicit_iff storing).mp there
    exact ⟨position, value, bound⟩
  · rintro ⟨position, value, bound⟩
    obtain ⟨again, bound⟩ := exists_lastBound bound
    exact ⟨_, (completes.explicit_iff storing).mpr bound, rfl⟩

theorem Completes.conventional
    (there : i.fields.get? field = some ⟨value, .autoWired⟩) :
    ∃ schema ∈ r.descriptor.fields, schema.name = field ∧
      Convention site.layers g site.entity anchor schema value :=
  (completes.wired field _ (completes.unbound storing.neverWires there) there).2

theorem Completes.wired_of_bound : Wired site r parameters g anchor i where
  explicit _ := completes.exists_explicit_iff storing
  last _ _ := completes.explicit_iff storing
  conventional _ _ := completes.conventional storing
  autoWired field := by
    constructor
    · intro source
      obtain ⟨⟨value, -⟩, there, rfl⟩ := Option.map_eq_some_iff.mp source
      obtain ⟨schema, member, named, convention⟩ := completes.conventional storing there
      rw [source]
      exact ⟨nofun, schema, member, named, convention.follows⟩
    · rintro ⟨open_, schema, member, rfl, follows⟩
      obtain ⟨⟨value, source⟩, there⟩ :=
        Option.ne_none_iff_exists'.mp (completes.complete schema member follows)
      rw [Instance.source?, there] at open_ ⊢
      cases source with
      | explicit => exact absurd rfl open_
      | autoWired => rfl
  unset field := by
    rw [Instance.get?, Option.map_eq_none_iff]
    constructor
    · intro none_
      refine ⟨fun position value bound => ?_, ?_⟩
      · have source := (completes.exists_explicit_iff storing).mpr ⟨position, value, bound⟩
        rw [Instance.source?, none_] at source
        cases source
      · rintro schema member rfl follows
        exact completes.complete schema member follows none_
    · rintro ⟨free, none_⟩
      rw [Option.eq_none_iff_forall_ne_some]
      rintro ⟨value, source⟩ there
      cases source with
      | explicit =>
          obtain ⟨position, bound, -⟩ := (completes.explicit_iff storing).mp there
          exact free position value bound
      | autoWired =>
          obtain ⟨schema, member, named, convention⟩ := completes.conventional storing there
          exact none_ schema member named convention.follows

end

/-- In any graph, a behavior that is attached has its fields from the last parameters that are bound
to them, or else from the conventions. -/
theorem attach_wires (index : Index) (layers : LayerTable) (inside : entity < g.size)
    (front back : List Binding) {binding : Binding} {r : Registered}
    (found : index.lookup binding.name = .ok r) (storing : r.descriptor.bind.Storing) :
    ∃ i, Given index entity g (attach index layers g entity (front ++ binding :: back)).1 front i ∧
      Wired (siteAfter index layers g entity front) r binding.parameters g
        (IsAnchor entity g (attach index layers g entity (front ++ binding :: back)).1) i := by
  obtain ⟨earlier, later, before, after, given⟩ :=
    attach_gives index layers inside front back found rfl
  have still := Nat.lt_of_lt_of_le inside before.grows
  have completes := wireFields_completes layers still r.descriptor.fields
    (bindExplicit (siteAfter index layers g entity front) r.descriptor r.blank
      binding.parameters).1
  refine ⟨_, given, Completes.wired_of_bound storing (completes.imp ?_ ?_)⟩
  · exact (before.hasBody inside).symm
  · exact fun a ensured => (ensured.between before after).isAnchor inside

/-! ## A slime that patrols -/

def slimeGraph : Graph := (Graph.empty.spawn "Slime" none).1

def groundLayers : LayerTable := (LayerTable.builtin.register groundLayerName).2

def patrol : Binding := ⟨"PatrolEnemy", [("damage", .number (.int 2))]⟩

def patrolEnemy : Registered :=
  ⟨builtinModule, describe "PatrolEnemy" refuseNegative
    [("speed", .float), ("patrolDistance", .float), ("damage", .int), ("startFacingRight", .bool),
      ("groundMask", .layerMask), ("groundCheck", .component .transform),
      ("body", .component .body)]⟩

theorem lookup_patrolEnemy : builtinIndex.lookup patrol.name = .ok patrolEnemy := by rfl

theorem attach_wires_slime :
    0 < slimeGraph.size ∧ builtinIndex.lookup patrol.name = .ok patrolEnemy ∧
      patrolEnemy.descriptor.bind.Storing ∧
      ∃ i, Given builtinIndex 0 slimeGraph
          (attach builtinIndex groundLayers slimeGraph 0 [patrol]).1 [] i ∧
        Wired (siteAfter builtinIndex groundLayers slimeGraph 0 []) patrolEnemy patrol.parameters
          slimeGraph
          (IsAnchor 0 slimeGraph (attach builtinIndex groundLayers slimeGraph 0 [patrol]).1) i := by
  have inside : 0 < slimeGraph.size := by decide
  exact ⟨inside, lookup_patrolEnemy, storing_refuseNegative,
    attach_wires builtinIndex groundLayers inside [] [] lookup_patrolEnemy storing_refuseNegative⟩

end GameScenes.Behavior
