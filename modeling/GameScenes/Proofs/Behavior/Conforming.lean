import GameScenes.Proofs.Behavior.Attaching
import Mathlib.Data.List.Nodup

/-!
# Behaviors that conform to what is registered

The fields of a behavior hold values of their own types, and what a value refers to is there.
Values are bound while the graph still grows; it only grows, so that they stay valid.  Attaching
behaviors to an entity attaches such behaviors only (`attach_conform`).
-/

set_option autoImplicit false

namespace GameScenes.Behavior

open Document (Binding)
open Scene (Components Entity Graph)

/-! ## Components -/

/-- Whether an entity has a component of a kind. -/
def hasPart (e : Entity) : ComponentKind → Bool
  | .transform => true
  | .body => e.components.body.isSome
  | .visual => e.components.visual.isSome
  | .collider => !e.components.colliders.isEmpty
  | .ui => e.components.ui.isSome

theorem hasComponent_iff {g : Graph} {id : EntityId} {kind : ComponentKind} :
    hasComponent g id kind = true ↔ ∃ e, g.get? id = some e ∧ hasPart e kind = true := by
  unfold hasComponent
  cases g.get? id with
  | none => simp
  | some e => cases kind <;> simp [hasPart]

/-- That the entities of a graph are in another one with the same components. -/
def Keeps (g h : Graph) : Prop :=
  ∀ id e, g.get? id = some e → ∃ later, h.get? id = some later ∧ hasPart later = hasPart e

namespace Keeps

variable {g h k : Graph}

theorem refl (g : Graph) : Keeps g g := fun _ e found => ⟨e, found, rfl⟩

theorem trans (first : Keeps g h) (second : Keeps h k) : Keeps g k := by
  intro id e found
  obtain ⟨later, there, parts⟩ := first id e found
  obtain ⟨last, last_there, last_parts⟩ := second id later there
  exact ⟨last, last_there, last_parts.trans parts⟩

/-- An entity keeps its components where two graphs look the same in views that show them. -/
theorem of_views {id : EntityId} {e : Entity} {left right : Entity → Entity}
    (same : (h.get? id).map left = (g.get? id).map right)
    (shown : ∀ e, hasPart (left e) = hasPart e) (before : ∀ e, hasPart (right e) = hasPart e)
    (found : g.get? id = some e) :
    ∃ later, h.get? id = some later ∧ hasPart later = hasPart e := by
  rw [found] at same
  obtain ⟨later, there, equal⟩ := Option.map_eq_some_iff.mp same
  exact ⟨later, there, by rw [← shown later, equal, before]⟩

end Keeps

theorem Attaches.keeps {entity : EntityId} {g h : Graph} {instances : List Instance}
    (attached : Attaches entity g h instances) : Keeps g h := by
  intro id e found
  by_cases own : id = entity
  · subst own
    exact Keeps.of_views attached.own (fun e => rfl) (fun e => rfl) found
  · exact Keeps.of_views (attached.others id (Graph.lt_size found) own) (fun e => rfl)
      (fun e => rfl) found

/-! ## Values -/

/-- That what a value refers to is in a graph. -/
def FieldValue.Refers (g : Graph) : FieldValue → Prop
  | .entity id => ∃ e, g.get? id = some e
  | .component id kind => ∃ e, g.get? id = some e ∧ hasPart e kind = true
  | _ => True

theorem FieldValue.Refers.mono {g h : Graph} {value : FieldValue} (refers : value.Refers g)
    (keeps : Keeps g h) : value.Refers h := by
  cases value with
  | entity id =>
      obtain ⟨e, found⟩ := refers
      obtain ⟨later, there, -⟩ := keeps id e found
      exact ⟨later, there⟩
  | component id kind =>
      obtain ⟨e, found, part⟩ := refers
      obtain ⟨later, there, parts⟩ := keeps id e found
      exact ⟨later, there, by rw [parts, part]⟩
  | _ => trivial

theorem orNotConvertible_ok {α : Type} {j : Json} {wanted : String} {wrap : α → FieldValue}
    {result : Option α} {value : FieldValue}
    (converted : orNotConvertible j wanted wrap result = .ok value) : ∃ a, value = wrap a := by
  cases result with
  | none => cases converted
  | some a =>
      cases converted
      exact ⟨a, rfl⟩

theorem asEntity_ok {g : Graph} (orderly : g.Orderly) {entity : EntityId}
    (inside : entity < g.size) {j : Json} {id : EntityId}
    (resolved : asEntity g (some entity) j = .ok id) : ∃ e, g.get? id = some e := by
  unfold asEntity at resolved
  split at resolved
  · cases resolved
  · split at resolved
    next resolution found =>
      cases resolved
      exact Graph.exists_of_lt (Graph.lt_of_resolve? orderly (Graph.lt_of_some inside) found)
    · cases resolved

/-- What a parameter is coerced to has the type of the field and refers to what is there. -/
theorem coerce_ok {g : Graph} (orderly : g.Orderly) {entity : EntityId}
    (inside : entity < g.size) {layers : LayerTable} {kind : FieldKind} {j : Json}
    {value : FieldValue} (coerced : coerce g layers (some entity) kind j = .ok value) :
    value.kind = kind ∧ value.Refers g := by
  cases kind with
  | layerMask =>
      unfold coerce at coerced
      cases masked : asLayerMask layers j with
      | error fault =>
          rw [masked] at coerced
          cases coerced
      | ok mask =>
          rw [masked] at coerced
          cases coerced
          exact ⟨rfl, trivial⟩
  | entity =>
      unfold coerce at coerced
      cases resolved : asEntity g (some entity) j with
      | error fault =>
          rw [resolved] at coerced
          cases coerced
      | ok id =>
          rw [resolved] at coerced
          cases coerced
          exact ⟨rfl, asEntity_ok orderly inside resolved⟩
  | component kind =>
      unfold coerce asComponent at coerced
      dsimp only at coerced
      split at coerced
      · cases coerced
      · split at coerced
        next present =>
          cases coerced
          exact ⟨rfl, hasComponent_iff.mp present⟩
        · cases coerced
  | _ =>
      obtain ⟨_, rfl⟩ := orNotConvertible_ok coerced
      exact ⟨rfl, trivial⟩

/-! ## Instances -/

/-- That a value may stand in a field of a behavior. -/
structure Fits (d : Descriptor) (g : Graph) (field : String) (value : FieldValue) : Prop where
  declared : ⟨field, value.kind⟩ ∈ d.fields
  refers : value.Refers g
  sign : d.bind = refuseNegative → value.isNegative = false

namespace Instance

variable {r : Registered} {g h : Graph} {i : Instance}

/-- That an instance is one of a registered behavior, with values that fit its fields. -/
structure Conforms (r : Registered) (g : Graph) (i : Instance) : Prop where
  module : i.module = r.module
  name : i.name = r.simpleName
  fields : ∀ entry ∈ i.fields.entries, Fits r.descriptor g entry.1 entry.2.value

theorem Conforms.mono (conforms : i.Conforms r g) (keeps : Keeps g h) : i.Conforms r h where
  module := conforms.module
  name := conforms.name
  fields entry member :=
    { conforms.fields entry member with
      refers := (conforms.fields entry member).refers.mono keeps }

theorem Conforms.set (conforms : i.Conforms r g) {field : String} {value : FieldValue}
    (fits : Fits r.descriptor g field value) (source : BindingSource) :
    (i.set field value source).Conforms r g where
  module := conforms.module
  name := conforms.name
  fields entry member := by
    rcases Dictionary.mem_insertEntry member with rfl | old
    · exact fits
    · exact conforms.fields entry old

theorem conforms_new (r : Registered) (g : Graph) :
    Conforms r g ⟨r.module, r.descriptor.name, Dictionary.empty⟩ where
  module := rfl
  name := rfl
  fields entry member := by simp [Dictionary.empty] at member

end Instance

/-! ## Explicit parameters -/

/-- That a binder does nothing but store the value in the field, if anything. -/
def Binder.Honest (bind : Binder) : Prop :=
  ∀ i schema value, (bind i schema value).1 = i ∨
    (bind i schema value).1 = i.set schema.name value .explicit

theorem honest_acceptAll : acceptAll.Honest := fun _ _ _ => .inr rfl

theorem honest_refuseNegative : refuseNegative.Honest := by
  intro i schema value
  unfold refuseNegative
  split
  · exact .inl rfl
  · exact .inr rfl

theorem Descriptor.mem_of_field? {d : Descriptor} {name : String} {schema : FieldSchema}
    (found : d.field? name = some schema) : schema ∈ d.fields := by
  rcases Option.or_eq_some_iff.mp found with exact_ | ⟨-, folded⟩
  · exact List.mem_of_find?_eq_some exact_
  · exact List.mem_of_find?_eq_some folded

section

variable {r : Registered} {g h : Graph} {i : Instance} {entity : EntityId}

/-- A binder stores a coerced value in a field that it fits. -/
theorem bind_conforms (honest : r.descriptor.bind.Honest) (conforms : i.Conforms r g)
    {schema : FieldSchema} (declared : schema ∈ r.descriptor.fields) {value : FieldValue}
    (kind : value.kind = schema.kind) (refers : value.Refers g) :
    (r.descriptor.bind i schema value).1.Conforms r g := by
  -- a negative number may come to a binder that refuses it, and then nothing is stored
  by_cases refused : r.descriptor.bind = refuseNegative ∧ value.isNegative = true
  · obtain ⟨bind, negative⟩ := refused
    rw [bind, refuseNegative, if_pos negative]
    exact conforms
  · have fits : Fits r.descriptor g schema.name value := by
      refine ⟨?_, refers, ?_⟩
      · rw [kind]
        exact declared
      · intro bind
        simpa [bind] using refused
    rcases honest i schema value with kept | stored
    · rw [kept]
      exact conforms
    · rw [stored]
      exact conforms.set fits .explicit

variable (orderly : g.Orderly) (inside : entity < g.size)

include orderly inside

theorem bindParameter_conforms (honest : r.descriptor.bind.Honest) (layers : LayerTable)
    (subject : String) (conforms : i.Conforms r g) (name : String) (raw : Json) :
    (bindParameter ⟨g, layers, entity, subject⟩ r.descriptor i name raw).1.Conforms r g := by
  unfold bindParameter
  split
  · exact conforms
  next schema found =>
    split
    · exact conforms
    · dsimp only
      split
      · exact conforms
      next value coerced =>
        obtain ⟨kind, refers⟩ := coerce_ok orderly inside coerced
        exact bind_conforms honest conforms (Descriptor.mem_of_field? found) kind refers

theorem bindExplicit_conforms (honest : r.descriptor.bind.Honest) (layers : LayerTable)
    (subject : String) (conforms : i.Conforms r g) (parameters : List (String × Json)) :
    (bindExplicit ⟨g, layers, entity, subject⟩ r.descriptor i parameters).1.Conforms r g := by
  induction parameters generalizing i with
  | nil => exact conforms
  | cons parameter rest ih =>
      obtain ⟨name, raw⟩ := parameter
      exact ih (bindParameter_conforms orderly inside honest layers subject conforms name raw)

end

/-! ## Conventions -/

/-- That what a convention gives to a field has the type of the field and refers to what is
there. -/
def Wiring.Suits (g : Graph) (schema : FieldSchema) : Wiring → Prop
  | .value given => given.kind = schema.kind ∧ given.Refers g ∧ given.isNegative = false
  | .groundCheckEntity => schema.kind = .entity
  | .groundCheckTransform => schema.kind = .component .transform
  | .nothing => True

theorem wiringOf_suits (g : Graph) (layers : LayerTable) (entity : EntityId)
    (schema : FieldSchema) : (wiringOf g layers entity schema).Suits g schema := by
  unfold wiringOf
  dsimp only
  split
  next mask =>
    split
    · split
      · exact ⟨mask.symm, trivial, rfl⟩
      · trivial
    · trivial
  next reference =>
    split
    · exact reference
    · trivial
  next place =>
    split
    · exact place
    · trivial
  next body =>
    split
    next present => exact ⟨body.symm, hasComponent_iff.mp present, rfl⟩
    · trivial
  · trivial

section

variable {r : Registered} {g : Graph} {i : Instance} {entity : EntityId}

theorem wireField_conforms (layers : LayerTable) (orderly : g.Orderly) (inside : entity < g.size)
    (conforms : i.Conforms r g) {schema : FieldSchema} (declared : schema ∈ r.descriptor.fields) :
    (wireField layers entity (g, i) schema).2.Conforms r
      (wireField layers entity (g, i) schema).1 := by
  have suits := wiringOf_suits g layers entity schema
  obtain ⟨attached, present⟩ := ensureGroundCheck_attaches orderly.forest inside
  obtain ⟨check, found⟩ := Graph.exists_of_lt present
  unfold wireField
  dsimp only
  split
  · exact conforms
  · generalize wiringOf g layers entity schema = wiring at suits ⊢
    cases wiring with
    | nothing => exact conforms
    | value value =>
        obtain ⟨kind, refers, sign⟩ := suits
        refine conforms.set ⟨?_, refers, fun _ => sign⟩ .autoWired
        rw [kind]
        exact declared
    | groundCheckEntity =>
        have refers : (FieldValue.entity (ensureGroundCheck g entity).2).Refers
            (ensureGroundCheck g entity).1 := ⟨check, found⟩
        refine (conforms.mono attached.keeps).set ⟨?_, refers, fun _ => rfl⟩ .autoWired
        rw [FieldValue.kind, ← suits]
        exact declared
    | groundCheckTransform =>
        have refers : (FieldValue.component (ensureGroundCheck g entity).2 .transform).Refers
            (ensureGroundCheck g entity).1 := ⟨check, found, rfl⟩
        refine (conforms.mono attached.keeps).set ⟨?_, refers, fun _ => rfl⟩ .autoWired
        rw [FieldValue.kind, ← suits]
        exact declared

theorem wireFields_conforms (layers : LayerTable) (schemas : List FieldSchema)
    (declared : ∀ schema ∈ schemas, schema ∈ r.descriptor.fields) (orderly : g.Orderly)
    (inside : entity < g.size) (conforms : i.Conforms r g) :
    (schemas.foldl (wireField layers entity) (g, i)).2.Conforms r
      (schemas.foldl (wireField layers entity) (g, i)).1 := by
  induction schemas generalizing g i with
  | nil => exact conforms
  | cons schema rest ih =>
      have first := wireField_attaches layers orderly.forest inside i schema
      have next := wireField_conforms layers orderly inside conforms
        (declared schema (List.mem_cons_self ..))
      exact ih (fun other member => declared other (List.mem_cons_of_mem _ member))
        (first.orderly orderly) (Nat.lt_of_lt_of_le inside first.grows) next

end

/-! ## Looking up -/

namespace Index

variable {index : Index} {r : Registered}

theorem mem_of_lookupQualified {name : String} (found : index.lookupQualified name = .ok r) :
    r ∈ index.behaviors := by
  unfold lookupQualified at found
  split at found
  · cases found
  · split at found
    next first =>
      cases found
      exact List.mem_of_find?_eq_some first
    · cases found

theorem mem_of_settle? {group : List Registered} (settled : index.settle? group = some r) :
    r ∈ group := by
  unfold settle? at settled
  split at settled
  · cases settled
    exact List.mem_singleton_self _
  · obtain ⟨module, -, first⟩ := List.exists_of_findSome?_eq_some settled
    exact List.mem_of_find?_eq_some first

theorem mem_of_lookupSimple {name : String} (found : index.lookupSimple name = .ok r) :
    r ∈ index.behaviors := by
  unfold lookupSimple at found
  split at found
  · cases found
  · dsimp only at found
    split at found
    next settled =>
      cases found
      exact (List.mem_filter.mp (mem_of_settle? settled)).1
    · cases found

theorem mem_of_lookup {raw : String} (found : index.lookup raw = .ok r) :
    r ∈ index.behaviors := by
  unfold lookup at found
  dsimp only at found
  split at found
  · exact mem_of_lookupQualified found
  · exact mem_of_lookupSimple found

/-- That all binders of an index are honest. -/
def Honest (index : Index) : Prop := ∀ r ∈ index.behaviors, r.descriptor.bind.Honest

theorem mem_of_firstOfEach {seen : List String} {all : List Registered}
    (member : r ∈ firstOfEach seen all) : r ∈ all := by
  induction all generalizing seen with
  | nil => simp [firstOfEach] at member
  | cons first rest ih =>
      unfold firstOfEach at member
      split at member
      · exact List.mem_cons_of_mem _ (ih member)
      · rcases List.mem_cons.mp member with rfl | later
        · exact List.mem_cons_self ..
        · exact List.mem_cons_of_mem _ (ih later)

/-- What holds of all binders of some catalogs holds of those of their index. -/
theorem binders_ofCatalogs {P : Binder → Prop} {catalogs : List Catalog} (precedence : List String)
    (holds : ∀ catalog ∈ catalogs, ∀ d ∈ catalog.descriptors, P d.bind) :
    ∀ r ∈ (ofCatalogs catalogs precedence).behaviors, P r.descriptor.bind := by
  intro r member
  obtain ⟨catalog, listed, described⟩ := List.mem_flatMap.mp (mem_of_firstOfEach member)
  obtain ⟨d, declared, rfl⟩ := List.mem_map.mp described
  exact holds catalog listed d declared

/-- An index is honest when the behaviors of its catalogs are. -/
theorem honest_ofCatalogs {catalogs : List Catalog} (precedence : List String)
    (honest : ∀ catalog ∈ catalogs, ∀ d ∈ catalog.descriptors, d.bind.Honest) :
    (ofCatalogs catalogs precedence).Honest :=
  binders_ofCatalogs precedence honest

theorem firstOfEach_distinct (seen : List String) (all : List Registered) :
    (∀ r ∈ firstOfEach seen all, r.qualifiedName ∉ seen) ∧
      ((firstOfEach seen all).map (·.qualifiedName)).Nodup := by
  induction all generalizing seen with
  | nil => simp [firstOfEach]
  | cons first rest ih =>
      unfold firstOfEach
      split
      · exact ih seen
      next fresh =>
        obtain ⟨others, distinct⟩ := ih (first.qualifiedName :: seen)
        refine ⟨?_, List.nodup_cons.mpr ⟨?_, distinct⟩⟩
        · intro r member
          rcases List.mem_cons.mp member with rfl | later
          · simpa using fresh
          · exact fun known => others r later (List.mem_cons_of_mem _ known)
        · intro repeated
          obtain ⟨r, later, same⟩ := List.mem_map.mp repeated
          exact others r later (same ▸ List.mem_cons_self ..)

/-- An instance is one of a single behavior of the catalogs. -/
theorem conforms_unique {catalogs : List Catalog} {precedence : List String} {s : Registered}
    {g h : Graph} {i : Instance} (left : r ∈ (ofCatalogs catalogs precedence).behaviors)
    (right : s ∈ (ofCatalogs catalogs precedence).behaviors) (first : i.Conforms r g)
    (second : i.Conforms s h) : r = s := by
  have same : r.qualifiedName = s.qualifiedName := by
    show r.module ++ "::" ++ r.simpleName = s.module ++ "::" ++ s.simpleName
    rw [← first.module, ← first.name, second.module, second.name]
  exact List.inj_on_of_nodup_map (firstOfEach_distinct [] (registeredOf catalogs)).2 left right
    same

end Index

theorem builtinCatalog_binders :
    ∀ d ∈ builtinCatalog.descriptors, d.bind = acceptAll ∨ d.bind = refuseNegative := by
  intro d member
  simp only [builtinCatalog, List.mem_cons, List.not_mem_nil, or_false] at member
  rcases member with rfl | rfl | rfl | rfl | rfl | rfl | rfl
  · exact .inr rfl
  · exact .inr rfl
  · exact .inl rfl
  · exact .inr rfl
  · exact .inr rfl
  · exact .inl rfl
  · exact .inr rfl

theorem honest_builtinCatalog : ∀ d ∈ builtinCatalog.descriptors, d.bind.Honest := by
  intro d member
  rcases builtinCatalog_binders d member with bind | bind
  · rw [bind]
    exact honest_acceptAll
  · rw [bind]
    exact honest_refuseNegative

/-! ## Graphs -/

/-- That every behavior of every entity conforms to one that is registered. -/
def BehaviorsConform (index : Index) (g : Graph) : Prop :=
  ∀ id e, g.get? id = some e → ∀ i ∈ e.components.behaviors,
    ∃ r ∈ index.behaviors, i.Conforms r g

section

variable {index : Index} {g h : Graph} {entity : EntityId} {instances : List Instance}

theorem behaviorsConform_empty (index : Index) : BehaviorsConform index Graph.empty := by
  intro id e found
  simp [Graph.get?, Graph.empty] at found

/-- Behaviors go on conforming in a graph that keeps the entities when all others in it conform. -/
theorem BehaviorsConform.grow (conform : BehaviorsConform index g) (keeps : Keeps g h)
    (origin : ∀ id later, h.get? id = some later → ∀ i ∈ later.components.behaviors,
      (∃ e, g.get? id = some e ∧ i ∈ e.components.behaviors) ∨
        ∃ r ∈ index.behaviors, i.Conforms r h) :
    BehaviorsConform index h := by
  intro id later there i member
  rcases origin id later there i member with ⟨e, found, before⟩ | new
  · obtain ⟨r, registered, conforms⟩ := conform id e found i before
    exact ⟨r, registered, conforms.mono keeps⟩
  · exact new

/-- Where two graphs look the same in views, the behaviors of an entity are those that its view
showed before. -/
theorem behaviors_of_views {id : EntityId} {later : Entity} {left right : Entity → Entity}
    (same : (h.get? id).map left = (g.get? id).map right)
    (shown : ∀ e, (left e).components.behaviors = e.components.behaviors)
    (there : h.get? id = some later) :
    ∃ e, g.get? id = some e ∧ later.components.behaviors = (right e).components.behaviors := by
  rw [there] at same
  obtain ⟨e, found, equal⟩ := Option.map_eq_some_iff.mp same.symm
  exact ⟨e, found, by rw [← shown later, ← equal]⟩

theorem BehaviorsConform.of_attaches (conform : BehaviorsConform index g)
    (attached : Attaches entity g h instances)
    (new : ∀ i ∈ instances, ∃ r ∈ index.behaviors, i.Conforms r h) :
    BehaviorsConform index h := by
  refine conform.grow attached.keeps ?_
  intro id later there i member
  by_cases early : id < g.size
  · by_cases own : id = entity
    · subst own
      obtain ⟨e, found, worn⟩ := behaviors_of_views attached.own (fun e => rfl) there
      rw [worn] at member
      rcases List.mem_append.mp member with before | added
      · exact .inl ⟨e, found, before⟩
      · exact .inr (new i added)
    · obtain ⟨e, found, same⟩ :=
        behaviors_of_views (attached.others id early own) (fun e => rfl) there
      rw [same] at member
      exact .inl ⟨e, found, member⟩
  · have check := attached.checks id later (Nat.not_lt.mp early) there
    rw [check.bare] at member
    simp [Components.none] at member

/-- A new entity has no behaviors yet. -/
theorem BehaviorsConform.add (conform : BehaviorsConform index g) (orderly : g.Orderly)
    (name : String) {parent : Option EntityId} (valid : ∀ p, parent = some p → p < g.size)
    {fill : Entity → Entity}
    (bare : ∀ e, (fill e).components.behaviors = e.components.behaviors) :
    BehaviorsConform index (g.add name parent fill) := by
  have kept : ∀ id, id ≠ g.size → ((g.add name parent fill).get? id).map Entity.unlinked =
      (g.get? id).map Entity.unlinked :=
    fun id old => Graph.unlinked_add g name parent fill old
  refine conform.grow ?_ ?_
  · intro id e found
    exact Keeps.of_views (kept id (Nat.ne_of_lt (Graph.lt_size found))) (fun e => rfl)
      (fun e => rfl) found
  · intro id later there i member
    by_cases new : id = g.size
    · subst new
      rw [Graph.get?_add_new orderly name valid] at there
      cases there
      rw [bare] at member
      simp [Entity.blank, Components.none] at member
    · obtain ⟨e, found, same⟩ := behaviors_of_views (kept id new) (fun e => rfl) there
      rw [same] at member
      exact .inl ⟨e, found, member⟩

variable (orderly : g.Orderly) (inside : entity < g.size) (honest : index.Honest)
  (layers : LayerTable) (subject : String)

include orderly inside honest

theorem attachOne_conform (conform : BehaviorsConform index g) (binding : Binding) :
    BehaviorsConform index (attachOne index layers entity subject g binding).1 := by
  unfold attachOne
  cases found : index.lookup binding.name with
  | error fault => exact conform
  | ok r =>
      have registered := Index.mem_of_lookup found
      have bound := bindExplicit_conforms orderly inside (honest r registered) layers subject
        (Instance.conforms_new r g) binding.parameters
      have wiring := wireFields_attaches layers r.descriptor.fields orderly.forest inside
        (bindExplicit ⟨g, layers, entity, subject⟩ r.descriptor
          ⟨r.module, r.descriptor.name, Dictionary.empty⟩ binding.parameters).1
      have wired := wireFields_conforms layers r.descriptor.fields (fun _ member => member)
        orderly inside bound
      have added := addInstance_attaches wiring.forest entity
        (autoWire layers entity r.descriptor g (bindExplicit ⟨g, layers, entity, subject⟩
          r.descriptor ⟨r.module, r.descriptor.name, Dictionary.empty⟩ binding.parameters).1).2
      dsimp only
      refine (conform.of_attaches wiring (by simp)).of_attaches added ?_
      intro i member
      rw [List.mem_singleton.mp member]
      exact ⟨r, registered, wired.mono added.keeps⟩

theorem attachEach_conform (conform : BehaviorsConform index g) (bindings : List Binding) :
    BehaviorsConform index (attachEach index layers entity subject g bindings).1 := by
  induction bindings generalizing g with
  | nil => exact conform
  | cons binding rest ih =>
      obtain ⟨first, step⟩ := attachOne_attaches index layers subject orderly.forest inside binding
      have next := attachOne_conform orderly inside honest layers subject conform binding
      unfold attachEach
      generalize attachOne index layers entity subject g binding = built at step next ⊢
      obtain ⟨grown, recorded⟩ := built
      exact ih (step.orderly orderly) (Nat.lt_of_lt_of_le inside step.grows) next

theorem attach_conform (conform : BehaviorsConform index g) (bindings : List Binding) :
    BehaviorsConform index (attach index layers g entity bindings).1 :=
  attachEach_conform orderly inside honest layers _ conform bindings

end

end GameScenes.Behavior
