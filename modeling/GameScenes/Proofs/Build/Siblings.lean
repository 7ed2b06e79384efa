import GameScenes.Proofs.Build.Bindings
import GameScenes.Proofs.Build.Faults

/-!
# Faulty behaviors beside others

Every binding of a document whose name stands for a behavior gives one instance, in the order of the
document.  A binding whose name does not, and a parameter that its behavior does not take, leave a
fault on record and nothing else: without them the same graph comes about
(`attachBehaviors_spares_siblings`).
-/

set_option autoImplicit false

namespace GameScenes.Behavior

open Document (Binding)
open Scene (Entity Graph)

/-! ## Binders -/

/-- That a binder leaves an instance as it is when it refuses a value. -/
def Binder.Firm (bind : Binder) : Prop :=
  ∀ i schema value reason, (bind i schema value).2 = some reason → (bind i schema value).1 = i

/-- That a binder changes no more of an instance than its fields. -/
def Binder.KeepsNames (bind : Binder) : Prop :=
  ∀ i schema value, (bind i schema value).1.module = i.module ∧
    (bind i schema value).1.name = i.name

theorem firm_acceptAll : acceptAll.Firm := by
  intro i schema value reason refused
  cases refused

theorem firm_refuseNegative : refuseNegative.Firm := by
  intro i schema value reason refused
  by_cases negative : value.isNegative = true
  · rw [refuseNegative, if_pos negative]
  · rw [refuseNegative, if_neg negative] at refused
    cases refused

/-- That all binders of an index are firm. -/
def Index.Firm (index : Index) : Prop := ∀ r ∈ index.behaviors, r.descriptor.bind.Firm

theorem firm_builtin (precedence : List String) :
    (Index.ofCatalogs [builtinCatalog] precedence).Firm := by
  apply Index.binders_ofCatalogs
  intro catalog listed d declared
  rw [List.mem_singleton.mp listed] at declared
  rcases builtinCatalog_binders d declared with bind | bind
  · rw [bind]
    exact firm_acceptAll
  · rw [bind]
    exact firm_refuseNegative

/-! ## Parameters -/

/-- That binding a parameter to a field of an instance is a fault. -/
inductive ParameterFault (site : BindingSite) (descriptor : Descriptor) (i : Instance)
    (name : String) (raw : Json) : Diagnostic → Prop where
  | unknown (missing : descriptor.field? name = none) :
      ParameterFault site descriptor i name raw
        ((((Diagnostic.warning .unknownParameter
          ("behavior '" ++ descriptor.name ++ "' has no field '" ++ name ++ "'")).about
            site.subject).inField name).withValue raw.compact)
  | unconvertible {schema : FieldSchema} {cause : CoercionFault}
      (declared : descriptor.field? name = some schema) (given : raw.isNull = false)
      (failed : coerce site.graph site.layers (some site.entity) schema.kind raw = .error cause) :
      ParameterFault site descriptor i name raw
        ((((Diagnostic.warning cause.code cause.message).about site.subject).inField
          schema.name).withValue raw.compact)
  | refused {schema : FieldSchema} {value : FieldValue} {reason : String}
      (declared : descriptor.field? name = some schema) (given : raw.isNull = false)
      (coerced : coerce site.graph site.layers (some site.entity) schema.kind raw = .ok value)
      (refusal : (descriptor.bind i schema value).2 = some reason) :
      ParameterFault site descriptor i name raw
        ((((Diagnostic.warning .coercionFailed reason).about site.subject).inField
          schema.name).withValue raw.compact)

section

variable {site : BindingSite} {descriptor : Descriptor} {i : Instance} {name : String}
  {raw : Json} {d : Diagnostic}

theorem bindParameter_fault_iff :
    (bindParameter site descriptor i name raw).2 = some d ↔
      ParameterFault site descriptor i name raw d := by
  constructor
  · intro recorded
    unfold bindParameter at recorded
    split at recorded
    next missing =>
      cases recorded
      exact .unknown missing
    next schema declared =>
      by_cases null : raw.isNull = true
      · rw [if_pos null] at recorded
        cases recorded
      · rw [if_neg null] at recorded
        dsimp only at recorded
        split at recorded
        next cause failed =>
          cases recorded
          exact .unconvertible declared (Bool.eq_false_iff.mpr null) failed
        next value coerced =>
          obtain ⟨reason, refusal, rfl⟩ := Option.map_eq_some_iff.mp recorded
          exact .refused declared (Bool.eq_false_iff.mpr null) coerced refusal
  · intro fault
    cases fault with
    | unknown missing => simp only [bindParameter, missing]
    | unconvertible declared given failed =>
        simp [bindParameter, declared, given, failed]
    | refused declared given coerced refusal =>
        simp [bindParameter, declared, given, coerced, refusal]

/-- A parameter that is a fault leaves the instance as it is. -/
theorem bindParameter_of_fault (firm : descriptor.bind.Firm)
    (fault : ParameterFault site descriptor i name raw d) :
    bindParameter site descriptor i name raw = (i, some d) := by
  refine Prod.ext ?_ (bindParameter_fault_iff.mpr fault)
  cases fault with
  | unknown missing => simp only [bindParameter, missing]
  | unconvertible declared given failed => simp [bindParameter, declared, given, failed]
  | refused declared given coerced refusal =>
      have kept := firm _ _ _ _ refusal
      simp [bindParameter, declared, given, coerced, kept]

theorem bindParameter_names (keeps : descriptor.bind.KeepsNames) :
    (bindParameter site descriptor i name raw).1.module = i.module ∧
      (bindParameter site descriptor i name raw).1.name = i.name := by
  unfold bindParameter
  split
  · exact ⟨rfl, rfl⟩
  · split
    · exact ⟨rfl, rfl⟩
    · dsimp only
      split
      · exact ⟨rfl, rfl⟩
      · exact keeps ..

variable (site descriptor i)

theorem bindExplicit_names (keeps : descriptor.bind.KeepsNames)
    (parameters : List (String × Json)) :
    (bindExplicit site descriptor i parameters).1.module = i.module ∧
      (bindExplicit site descriptor i parameters).1.name = i.name := by
  induction parameters generalizing i with
  | nil => exact ⟨rfl, rfl⟩
  | cons parameter rest ih =>
      obtain ⟨name, raw⟩ := parameter
      have first : (bindParameter site descriptor i name raw).1.module = i.module ∧
          (bindParameter site descriptor i name raw).1.name = i.name := bindParameter_names keeps
      have later := ih (bindParameter site descriptor i name raw).1
      exact ⟨later.1.trans first.1, later.2.trans first.2⟩

theorem bindExplicit_append (xs ys : List (String × Json)) :
    bindExplicit site descriptor i (xs ++ ys) =
      ((bindExplicit site descriptor (bindExplicit site descriptor i xs).1 ys).1,
        (bindExplicit site descriptor i xs).2 ++
          (bindExplicit site descriptor (bindExplicit site descriptor i xs).1 ys).2) := by
  induction xs generalizing i with
  | nil => rfl
  | cons parameter rest ih =>
      obtain ⟨name, raw⟩ := parameter
      simp only [List.cons_append, bindExplicit, ih, List.append_assoc]

end

/-! ## Instances -/

/-- A behavior none of whose fields is set. -/
def Registered.blank (r : Registered) : Instance := ⟨r.module, r.descriptor.name, Dictionary.empty⟩

/-- The graph and the instance after the parameters of a binding are bound and the other fields are
wired. -/
def Registered.wired (r : Registered) (site : BindingSite) (parameters : List (String × Json)) :
    Graph × Instance :=
  autoWire site.layers site.entity r.descriptor site.graph
    (bindExplicit site r.descriptor r.blank parameters).1

theorem wireFields_names (layers : LayerTable) (entity : EntityId) (schemas : List FieldSchema)
    (g : Graph) (i : Instance) :
    (schemas.foldl (wireField layers entity) (g, i)).2.module = i.module ∧
      (schemas.foldl (wireField layers entity) (g, i)).2.name = i.name := by
  induction schemas generalizing g i with
  | nil => exact ⟨rfl, rfl⟩
  | cons schema rest ih =>
      have first : (wireField layers entity (g, i) schema).2.module = i.module ∧
          (wireField layers entity (g, i) schema).2.name = i.name := by
        unfold wireField
        dsimp only
        split
        · exact ⟨rfl, rfl⟩
        · split <;> exact ⟨rfl, rfl⟩
      have later := ih (wireField layers entity (g, i) schema).1
        (wireField layers entity (g, i) schema).2
      exact ⟨later.1.trans first.1, later.2.trans first.2⟩

theorem Registered.wired_names (r : Registered) (keeps : r.descriptor.bind.KeepsNames)
    (site : BindingSite) (parameters : List (String × Json)) :
    (r.wired site parameters).2.module = r.module ∧
      (r.wired site parameters).2.name = r.simpleName := by
  have bound := bindExplicit_names site r.descriptor r.blank keeps parameters
  have wired := wireFields_names site.layers site.entity r.descriptor.fields site.graph
    (bindExplicit site r.descriptor r.blank parameters).1
  exact ⟨wired.1.trans bound.1, wired.2.trans bound.2⟩

/-- That a parameter of a behavior is a fault after those before it. -/
def Registered.ParameterFaultAt (r : Registered) (site : BindingSite)
    (before : List (String × Json)) (name : String) (raw : Json) (d : Diagnostic) : Prop :=
  ParameterFault site r.descriptor (bindExplicit site r.descriptor r.blank before).1 name raw d

/-- What is recorded where the name of a binding stands for no behavior. -/
def lookupDiagnostic (subject : String) (binding : Binding) (fault : LookupFault) : Diagnostic :=
  ((Diagnostic.warning fault.code fault.message).about subject).withValue binding.name

/-- A binding with the behavior that its name stands for. -/
def standing? (index : Index) (binding : Binding) : Option (Binding × Registered) :=
  match index.lookup binding.name with
  | .ok r => some (binding, r)
  | .error _ => none

/-- The bindings whose names stand for behaviors, with these. -/
def resolved (index : Index) (bindings : List Binding) : List (Binding × Registered) :=
  bindings.filterMap (standing? index)

section

variable (index : Index) (layers : LayerTable) (entity : EntityId) (subject : String)

/-- That an instance is what one of the bindings of a run gives where it stands. -/
structure MadeFor (g : Graph) (bindings : List Binding) (bound : Binding × Registered)
    (i : Instance) : Prop where
  made : ∃ front back, bindings = front ++ bound.1 :: back ∧
    i = (bound.2.wired ⟨(attachEach index layers entity subject g front).1, layers, entity,
      subject⟩ bound.1.parameters).2
  names : bound.2.descriptor.bind.KeepsNames →
    i.module = bound.2.module ∧ i.name = bound.2.simpleName

variable {index layers entity subject} {g : Graph} {binding : Binding}

theorem attachOne_of_error {fault : LookupFault}
    (failed : index.lookup binding.name = .error fault) :
    attachOne index layers entity subject g binding =
      (g, [lookupDiagnostic subject binding fault]) := by
  simp only [attachOne, failed, lookupDiagnostic]

theorem attachOne_of_ok {r : Registered} (found : index.lookup binding.name = .ok r) :
    attachOne index layers entity subject g binding =
      (addInstance (r.wired ⟨g, layers, entity, subject⟩ binding.parameters).1 entity
          (r.wired ⟨g, layers, entity, subject⟩ binding.parameters).2,
        (bindExplicit ⟨g, layers, entity, subject⟩ r.descriptor r.blank binding.parameters).2) := by
  simp only [attachOne, found]
  rfl

theorem attachEach_append (xs ys : List Binding) :
    attachEach index layers entity subject g (xs ++ ys) =
      ((attachEach index layers entity subject
          (attachEach index layers entity subject g xs).1 ys).1,
        (attachEach index layers entity subject g xs).2 ++
          (attachEach index layers entity subject
            (attachEach index layers entity subject g xs).1 ys).2) := by
  induction xs generalizing g with
  | nil => rfl
  | cons binding rest ih => simp only [List.cons_append, attachEach, ih, List.append_assoc]

theorem attachEach_snoc (front : List Binding) (binding : Binding) :
    (attachEach index layers entity subject g (front ++ [binding])).1 =
      (attachOne index layers entity subject
        (attachEach index layers entity subject g front).1 binding).1 := by
  simp only [attachEach_append, attachEach]

/-- What is left of a run attaches one instance for each binding whose name stands for a
behavior. -/
theorem attachEach_made {h : Graph} {bindings : List Binding} (front rest : List Binding)
    (whole : bindings = front ++ rest)
    (reached : h = (attachEach index layers entity subject g front).1)
    (forest : h.Forest) (inside : entity < h.size) :
    ∃ instances, Attaches entity h (attachEach index layers entity subject h rest).1 instances ∧
      List.Forall₂ (MadeFor index layers entity subject g bindings) (resolved index rest)
        instances := by
  induction rest generalizing h front with
  | nil => exact ⟨[], .refl forest entity, .nil⟩
  | cons binding rest ih =>
      have further : bindings = (front ++ [binding]) ++ rest := by
        rw [whole, List.append_assoc]
        rfl
      rw [attachEach]
      cases found : index.lookup binding.name with
      | error fault =>
          have stays : h = (attachEach index layers entity subject g (front ++ [binding])).1 := by
            rw [attachEach_snoc, attachOne_of_error found, reached]
          have skipped : standing? index binding = none := by simp only [standing?, found]
          obtain ⟨others, run, made⟩ := ih (front ++ [binding]) further stays forest inside
          refine ⟨others, ?_, ?_⟩
          · rw [attachOne_of_error found]
            exact run
          · rw [resolved, List.filterMap_cons_none skipped]
            exact made
      | ok r =>
          let site : BindingSite := ⟨h, layers, entity, subject⟩
          have wiring : Attaches entity h (r.wired site binding.parameters).1 [] :=
            wireFields_attaches layers r.descriptor.fields forest inside _
          have step := wiring.trans inside (addInstance_attaches wiring.forest entity
            (r.wired site binding.parameters).2)
          have next : addInstance (r.wired site binding.parameters).1 entity
              (r.wired site binding.parameters).2 =
                (attachEach index layers entity subject g (front ++ [binding])).1 := by
            rw [attachEach_snoc, ← reached, attachOne_of_ok found]
          have kept : standing? index binding = some (binding, r) := by
            simp only [standing?, found]
          obtain ⟨others, run, made⟩ := ih (front ++ [binding]) further next step.forest
            (Nat.lt_of_lt_of_le inside step.grows)
          refine ⟨(r.wired site binding.parameters).2 :: others, ?_, ?_⟩
          · rw [attachOne_of_ok found]
            exact step.trans inside run
          · rw [resolved, List.filterMap_cons_some kept]
            refine .cons ⟨⟨front, rest, whole, ?_⟩, ?_⟩ made
            · rw [← reached]
            · intro keeps
              exact r.wired_names keeps site binding.parameters

end

/-! ## Leaving out what is at fault -/

/-- That a list is another one without one occurrence of an element. -/
def OneLess {α : Type} (a : α) (all fewer : List α) : Prop :=
  ∃ front back, all = front ++ a :: back ∧ fewer = front ++ back

namespace OneLess

variable {α β : Type} {a : α} {all fewer : List α}

theorem first (a : α) (rest : List α) : OneLess a (a :: rest) rest := ⟨[], rest, rfl, rfl⟩

theorem append_left (less : OneLess a all fewer) (before : List α) :
    OneLess a (before ++ all) (before ++ fewer) := by
  obtain ⟨front, back, rfl, rfl⟩ := less
  exact ⟨before ++ front, back, by simp, by simp⟩

theorem append_right (less : OneLess a all fewer) (after : List α) :
    OneLess a (all ++ after) (fewer ++ after) := by
  obtain ⟨front, back, rfl, rfl⟩ := less
  exact ⟨front, back ++ after, by simp, by simp⟩

theorem map (less : OneLess a all fewer) (f : α → β) :
    OneLess (f a) (all.map f) (fewer.map f) := by
  obtain ⟨front, back, rfl, rfl⟩ := less
  exact ⟨front.map f, back.map f, by simp, by simp⟩

end OneLess

/-- That a run ends as another one, apart from one fault that it does not record. -/
structure Spares (d : Diagnostic) (all fewer : Graph × List Diagnostic) : Prop where
  graph : fewer.1 = all.1
  faults : OneLess d all.2 fewer.2

section

variable {index : Index} {layers : LayerTable} {entity : EntityId} {subject : String}
  {g : Graph} {binding : Binding} {d : Diagnostic}

/-- What is left out of one step of a run is left out of the run. -/
theorem Spares.attachEach (front back lesser : List Binding)
    (step : Spares d
      (attachOne index layers entity subject
        (attachEach index layers entity subject g front).1 binding)
      (attachEach index layers entity subject
        (attachEach index layers entity subject g front).1 lesser)) :
    Spares d (attachEach index layers entity subject g (front ++ binding :: back))
      (attachEach index layers entity subject g (front ++ (lesser ++ back))) := by
  obtain ⟨graph, faults⟩ := step
  rw [attachEach_append, attachEach_append, attachEach_append, Behavior.attachEach, graph]
  exact ⟨rfl, (faults.append_right _).append_left _⟩

theorem spares_binding (front back : List Binding) {fault : LookupFault}
    (failed : index.lookup binding.name = .error fault) :
    Spares (lookupDiagnostic subject binding fault)
      (attachEach index layers entity subject g (front ++ binding :: back))
      (attachEach index layers entity subject g (front ++ back)) := by
  apply Spares.attachEach front back []
  rw [attachOne_of_error failed]
  exact ⟨rfl, .first ..⟩

theorem spares_parameter (front back : List Binding) {r : Registered} (firm : r.descriptor.bind.Firm)
    (found : index.lookup binding.name = .ok r) {before after : List (String × Json)}
    {name : String} {raw : Json} (given : binding.parameters = before ++ (name, raw) :: after)
    (fault : r.ParameterFaultAt
      ⟨(attachEach index layers entity subject g front).1, layers, entity, subject⟩ before name raw
      d) :
    Spares d (attachEach index layers entity subject g (front ++ binding :: back))
      (attachEach index layers entity subject g
        (front ++ { binding with parameters := before ++ after } :: back)) := by
  apply Spares.attachEach front back [{ binding with parameters := before ++ after }]
  have same := bindParameter_of_fault firm fault
  have other : index.lookup ({ binding with parameters := before ++ after } : Binding).name = .ok r :=
    found
  rw [Behavior.attachEach, attachOne_of_ok found, attachOne_of_ok other, Registered.wired,
    Registered.wired, given, bindExplicit_append, bindExplicit_append]
  simp only [bindExplicit, same, Behavior.attachEach, List.append_nil]
  exact ⟨rfl, (OneLess.first ..).append_left _⟩

end

end GameScenes.Behavior

namespace GameScenes.Build

open Behavior (Attaches BindingSite MadeFor OneLess attachEach lookupDiagnostic resolved)
open Document (Binding Element Object)
open Scene (ButtonAction Entity Graph)

/-- The context and the graph after behaviors are attached to an entity. -/
def attachBehaviors (ctx : Context) (graph : Graph) (entity : EntityId) (bindings : List Binding) :
    Context × Graph :=
  let attached := Behavior.attach ctx.behaviors ctx.tables.layers graph entity bindings
  (ctx.recordAll attached.2, attached.1)

/-- An object of a scene ends with its behaviors. -/
theorem buildEntity_attachBehaviors (ctx : Context) (graph : Graph) (spec : Object) :
    ∃ grown id, buildEntity ctx graph spec =
      ((attachBehaviors (entityContext ctx graph spec) grown id spec.scripts).1,
        (attachBehaviors (entityContext ctx graph spec) grown id spec.scripts).2, id) :=
  ⟨_, _, rfl⟩

/-- An element of the user interface ends with its behaviors. -/
theorem buildUiElement_attachBehaviors (ctx : Context) (graph : Graph) (canvas : EntityId)
    (spec : Element) (action : Option ButtonAction) :
    ∃ grown id, buildUiElement ctx graph canvas spec action =
      ((attachBehaviors (elementContext ctx spec) grown id spec.scripts).1,
        (attachBehaviors (elementContext ctx spec) grown id spec.scripts).2, id) :=
  ⟨_, _, rfl⟩

theorem attachBehaviors_eq {graph : Graph} {entity : EntityId} {e : Entity}
    (found : graph.get? entity = some e) (ctx : Context) (bindings : List Binding) :
    attachBehaviors ctx graph entity bindings =
      (ctx.recordAll (attachEach ctx.behaviors ctx.tables.layers entity e.name graph bindings).2,
        (attachEach ctx.behaviors ctx.tables.layers entity e.name graph bindings).1) := by
  simp only [attachBehaviors, Behavior.attach, found]

/-- That attaching some behaviors ends as attaching others, apart from one fault that it does not
record. -/
structure Spares (ctx : Context) (graph : Graph) (entity : EntityId) (d : Diagnostic)
    (all fewer : List Binding) : Prop where
  same : (attachBehaviors ctx graph entity fewer).2 = (attachBehaviors ctx graph entity all).2
  faults : OneLess (ctx.log.locate d)
    (attachBehaviors ctx graph entity all).1.log.entries.toList
    (attachBehaviors ctx graph entity fewer).1.log.entries.toList

theorem Spares.of_each {ctx : Context} {graph : Graph} {entity : EntityId} {e : Entity}
    (found : graph.get? entity = some e) {d : Diagnostic} {all fewer : List Binding}
    (spares : Behavior.Spares d
      (attachEach ctx.behaviors ctx.tables.layers entity e.name graph all)
      (attachEach ctx.behaviors ctx.tables.layers entity e.name graph fewer)) :
    Spares ctx graph entity d all fewer := by
  refine ⟨?_, ?_⟩
  · rw [attachBehaviors_eq found, attachBehaviors_eq found]
    exact spares.graph
  · rw [attachBehaviors_eq found, attachBehaviors_eq found]
    simp only [Context.recordAll, DiagnosticLog.pushAll_entries]
    exact (spares.faults.map _).append_left _

/-- Each binding whose name stands for a behavior attaches one instance, in order; a binding whose
name does not and a parameter that is a fault may be left out, and then only their fault is
missing. -/
theorem attachBehaviors_spares_siblings (ctx : Context) {graph : Graph} {entity : EntityId}
    {e : Entity} (forest : graph.Forest) (found : graph.get? entity = some e)
    (firm : ctx.behaviors.Firm) (bindings : List Binding) :
    (∃ instances,
      Attaches entity graph (attachBehaviors ctx graph entity bindings).2 instances ∧
        List.Forall₂ (MadeFor ctx.behaviors ctx.tables.layers entity e.name graph bindings)
          (resolved ctx.behaviors bindings) instances) ∧
      ∀ front binding back, bindings = front ++ binding :: back →
        (∀ fault, ctx.behaviors.lookup binding.name = .error fault →
          Spares ctx graph entity (lookupDiagnostic e.name binding fault) bindings
            (front ++ back)) ∧
        ∀ r before name raw after d, ctx.behaviors.lookup binding.name = .ok r →
          binding.parameters = before ++ (name, raw) :: after →
          r.ParameterFaultAt ⟨(attachBehaviors ctx graph entity front).2, ctx.tables.layers,
            entity, e.name⟩ before name raw d →
          Spares ctx graph entity d bindings
            (front ++ { binding with parameters := before ++ after } :: back) := by
  refine ⟨?_, ?_⟩
  · rw [attachBehaviors_eq found]
    exact Behavior.attachEach_made [] bindings rfl rfl forest (Graph.lt_size found)
  · rintro front binding back rfl
    refine ⟨?_, ?_⟩
    · intro fault failed
      apply Spares.of_each found
      exact Behavior.spares_binding front back failed
    · intro r before name raw after d known given fault
      apply Spares.of_each found
      rw [attachBehaviors_eq found] at fault
      have registered := Behavior.Index.mem_of_lookup known
      exact Behavior.spares_parameter front back (firm r registered) known given fault

/-! ## A player with a jetpack -/

/-- A scene with a player and nothing else. -/
def playerGraph : Graph := (Graph.empty.spawn "Player" none).1

def jetpack : Binding := ⟨"Jetpack", [("fuel", .number (.int 3))]⟩

/-- A controller with a speed that is no number. -/
def hastyController : Binding :=
  ⟨"PlayerController", [("jumpForce", .number (.int 12)), ("moveSpeed", .text "fast")]⟩

def jetpackDiagnostic : Diagnostic :=
  (((Diagnostic.warning .unknownBehavior "no behavior named 'Jetpack' is registered").about
    "Player").withValue "Jetpack")

def speedDiagnostic : Diagnostic :=
  ((((Diagnostic.warning .coercionFailed "cannot convert \"fast\" to float").about
    "Player").inField "moveSpeed").withValue "\"fast\"")

/-- Neither the jetpack nor the speed changes the graph. -/
theorem attachBehaviors_spares_siblings_player :
    (∃ instances, Attaches 0 playerGraph
        (attachBehaviors builtinContext playerGraph 0 [jetpack, hastyController]).2 instances ∧
          instances.length = 1) ∧
      Spares builtinContext playerGraph 0 jetpackDiagnostic [jetpack, hastyController]
        [hastyController] ∧
      Spares builtinContext playerGraph 0 speedDiagnostic [jetpack, hastyController]
        [jetpack, { hastyController with parameters := [("jumpForce", .number (.int 12))] }] := by
  have orderly : playerGraph.Orderly := by
    rw [playerGraph, Graph.spawn_eq_add]
    exact Graph.orderly_empty.add "Player" (by simp) fun e => rfl
  have found : playerGraph.get? 0 = some (Entity.blank 0 "Player") := rfl
  have firm : builtinContext.behaviors.Firm := Behavior.firm_builtin []
  obtain ⟨⟨instances, attached, made⟩, spared⟩ := attachBehaviors_spares_siblings builtinContext
    orderly.forest found firm [jetpack, hastyController]
  obtain ⟨withoutJetpack, -⟩ := spared [] jetpack [hastyController] rfl
  obtain ⟨-, withoutParameter⟩ := spared [jetpack] hastyController [] rfl
  refine ⟨⟨instances, attached, ?_⟩, ?_, ?_⟩
  · rw [← made.length_eq]
    decide +kernel
  · exact withoutJetpack (.unknown "Jetpack") (by rfl)
  · exact withoutParameter _ [("jumpForce", .number (.int 12))] "moveSpeed" (.text "fast") []
      speedDiagnostic rfl rfl (Behavior.bindParameter_fault_iff.mp (by decide +kernel))

end GameScenes.Build
