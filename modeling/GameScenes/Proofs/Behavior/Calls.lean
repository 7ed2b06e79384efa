import GameScenes.Proofs.Behavior.Wiring

/-!
# One ground check for all behaviors

However often behaviors are attached to the entities of a forest, an entity gets one ground check at
most, and none if it has one.  Every field of its behaviors that is wired to a ground check is wired
to the first one that the entity has in the end (`runCalls_checks_once`).
-/

set_option autoImplicit false

namespace GameScenes.Behavior

open Document (Binding)
open Scene (Graph)

/-- A call that attaches behaviors to an entity. -/
structure Call where
  index : Index
  layers : LayerTable
  entity : EntityId
  bindings : List Binding

def Call.run (g : Graph) (call : Call) : Graph :=
  (attach call.index call.layers g call.entity call.bindings).1

/-- The graph after calls in their order. -/
def runCalls (g : Graph) (calls : List Call) : Graph := calls.foldl Call.run g

variable {g h k : Graph} {entity : EntityId} {i : Instance} {made more : Option EntityId}

/-! ## What a call gives -/

/-- That an instance comes from a binding for an entity, and that its wired fields follow the
conventions for the first ground check that the entity has in the end.  What a binder itself passes
off as wired does not count, as wiring never comes to such a field. -/
def FirstChecked (index : Index) (layers : LayerTable) (entity : EntityId) (g h : Graph)
    (binding : Binding) (i : Instance) : Prop :=
  ∃ r site, index.lookup binding.name = .ok r ∧ site.layers = layers ∧ site.entity = entity ∧
    i = (r.wired site binding.parameters).2 ∧
    ∀ field value, i.fields.get? field = some ⟨value, .autoWired⟩ →
      (r.descriptor.bind.NeverWires ∨
        (bindExplicit site r.descriptor r.blank binding.parameters).1.fields.get? field = none) →
      ∃ schema ∈ r.descriptor.fields, schema.name = field ∧
        Convention layers g entity (groundCheck? h entity = some ·) schema value

section

variable {index : Index} {layers : LayerTable} {binding : Binding}

theorem FirstChecked.imp (checked : FirstChecked index layers entity h k binding i)
    (same : hasComponent g entity .body = hasComponent h entity .body) {l : Graph}
    (kept : ∀ a, groundCheck? k entity = some a → groundCheck? l entity = some a) :
    FirstChecked index layers entity g l binding i := by
  obtain ⟨r, site, found, table, placed, given, wired⟩ := checked
  refine ⟨r, site, found, table, placed, given, fun field value there own => ?_⟩
  obtain ⟨schema, member, named, convention⟩ := wired field value there own
  exact ⟨schema, member, named, convention.imp same kept⟩

theorem WornBetween.firstChecked {r : Registered} (forest : g.Forest) (inside : entity < g.size)
    (found : index.lookup binding.name = .ok r)
    (worn : WornBetween layers entity g h r binding.parameters i) :
    FirstChecked index layers entity g h binding i := by
  obtain ⟨site, earlier, later, rfl, rfl, before, rfl, after⟩ := worn
  have completes := wireFields_completes site.layers (Nat.lt_of_lt_of_le inside before.grows)
    r.descriptor.fields (bindExplicit site r.descriptor r.blank binding.parameters).1
  refine ⟨r, site, found, rfl, rfl, rfl, fun field value there own => ?_⟩
  have unset := own.elim (fun never => completes.unbound never there) id
  obtain ⟨-, schema, member, named, convention⟩ := completes.wired field _ unset there
  refine ⟨schema, member, named, convention.imp (before.hasBody inside).symm ?_⟩
  exact fun a ensured => ((ensured.between before after).isAnchor inside).first forest

end

theorem Call.run_dressing (g : Graph) (call : Call) :
    ∃ instances, Dressing call.entity g instances (call.run g) ∧
      ∀ i ∈ instances, ∃ binding ∈ call.bindings, ∃ r, call.index.lookup binding.name = .ok r ∧
        WornBetween call.layers call.entity g (call.run g) r binding.parameters i := by
  rw [Call.run, attach_eq_attachEach]
  obtain ⟨instances, -, dressing, worn⟩ := attachEach_dressing call.index call.layers call.entity
    (((g.get? call.entity).map (·.name)).getD "") g call.bindings
  exact ⟨instances, dressing, worn⟩

/-! ## Any calls -/

/-- That calls give an entity one ground check at most, which is the one of all behaviors that they
add to those it had. -/
structure ChecksOnce (calls : List Call) (entity : EntityId) (g h : Graph)
    (made : Option EntityId) : Prop where
  anchored : Anchored entity g h made
  counted : (∀ call ∈ calls, call.entity = entity) → h.size = g.size + made.toList.length
  behaviors : ∃ added,
    (h.get? entity).map (·.components.behaviors) =
      (g.get? entity).map (·.components.behaviors ++ added) ∧
    ∀ i ∈ added, ∃ call ∈ calls, call.entity = entity ∧ ∃ binding ∈ call.bindings,
      FirstChecked call.index call.layers entity g h binding i

theorem ChecksOnce.nil (forest : g.Forest) (entity : EntityId) :
    ChecksOnce [] entity g g none where
  anchored := .refl forest entity
  counted _ := rfl
  behaviors := by
    refine ⟨[], ?_, fun i member => nomatch member⟩
    simp only [List.append_nil]

/-- One call gives an entity one ground check at most. -/
theorem Call.run_checks_once (forest : g.Forest) (inside : entity < g.size) (call : Call) :
    ∃ made, ChecksOnce [call] entity g (call.run g) made := by
  obtain ⟨instances, dressing, worn⟩ := call.run_dressing g
  obtain ⟨made, anchored⟩ := dressing.anchored forest inside
  refine ⟨made, anchored, ?counted, ?behaviors⟩
  case counted =>
    intro all
    obtain rfl := all call (List.mem_singleton_self call)
    have count := dressing.count forest inside
    rw [anchored.children, List.length_append] at count
    omega
  case behaviors =>
    by_cases mine : call.entity = entity
    · subst mine
      have own := congrArg (Option.map (·.components.behaviors)) (dressing.own inside)
      rw [Option.map_map, Option.map_map] at own
      refine ⟨instances, own, fun i member => ?_⟩
      obtain ⟨binding, given, r, found, between⟩ := worn i member
      exact ⟨call, List.mem_singleton_self call, rfl, binding, given,
        between.firstChecked forest inside found⟩
    · have others := congrArg (Option.map (·.components.behaviors))
        (dressing.others inside (Ne.symm mine))
      rw [Option.map_map, Option.map_map] at others
      refine ⟨[], ?_, fun i member => nomatch member⟩
      simp only [List.append_nil]
      exact others

theorem ChecksOnce.trans {xs ys : List Call} (forest : g.Forest)
    (first : ChecksOnce xs entity g h made) (second : ChecksOnce ys entity h k more)
    (same : hasComponent g entity .body = hasComponent h entity .body) :
    ChecksOnce (xs ++ ys) entity g k (made.or more) where
  anchored := first.anchored.trans second.anchored forest
  counted all := by
    have before := first.counted fun call member => all call (List.mem_append_left _ member)
    have after := second.counted fun call member => all call (List.mem_append_right _ member)
    have children := congrArg List.length (first.anchored.trans second.anchored forest).children
    rw [second.anchored.children, first.anchored.children] at children
    simp only [List.length_append] at children
    omega
  behaviors := by
    obtain ⟨xs, worn, checked⟩ := first.behaviors
    obtain ⟨ys, further, again⟩ := second.behaviors
    refine ⟨xs ++ ys, ?_, fun i member => ?_⟩
    · have ahead := congrArg (Option.map (· ++ ys)) worn
      rw [Option.map_map, Option.map_map] at ahead
      refine further.trans (ahead.trans ?_)
      congr 1
      funext e
      exact List.append_assoc ..
    · rcases List.mem_append.mp member with early | late
      · obtain ⟨call, among, placed, binding, given, wired⟩ := checked i early
        exact ⟨call, List.mem_append_left _ among, placed, binding, given,
          wired.imp rfl fun a => second.anchored.kept first.anchored.forest⟩
      · obtain ⟨call, among, placed, binding, given, wired⟩ := again i late
        exact ⟨call, List.mem_append_right _ among, placed, binding, given, wired.imp same fun _ => id⟩

/-- In a forest any calls give an entity one ground check at most, and none if it has one; what is
wired to a ground check in its behaviors is wired to the first one that it has in the end. -/
theorem runCalls_checks_once (forest : g.Forest) (inside : entity < g.size) (calls : List Call) :
    ∃ made, ChecksOnce calls entity g (runCalls g calls) made ∧
      groundCheck? (runCalls g calls) entity = (groundCheck? g entity).or made := by
  suffices once : ∃ made, ChecksOnce calls entity g (runCalls g calls) made by
    obtain ⟨made, once⟩ := once
    exact ⟨made, once, once.anchored.groundCheck? forest⟩
  induction calls generalizing g with
  | nil => exact ⟨none, .nil forest entity⟩
  | cons call rest ih =>
      obtain ⟨made, first⟩ := call.run_checks_once forest inside
      obtain ⟨more, second⟩ :=
        ih first.anchored.forest (Nat.lt_of_lt_of_le inside first.anchored.grows)
      obtain ⟨instances, dressing, -⟩ := call.run_dressing g
      exact ⟨_, first.trans forest second (dressing.hasBody inside).symm⟩

/-- A slime that is told to patrol by three bindings in two calls. -/
def patrolCalls : List Call :=
  [⟨builtinIndex, groundLayers, 0, [patrol]⟩, ⟨builtinIndex, .builtin, 0, [patrol, patrol]⟩]

theorem runCalls_checks_once_slime :
    slimeGraph.Forest ∧ 0 < slimeGraph.size ∧ (runCalls slimeGraph patrolCalls).size = 2 ∧
      ∃ made, ChecksOnce patrolCalls 0 slimeGraph (runCalls slimeGraph patrolCalls) made ∧
        groundCheck? (runCalls slimeGraph patrolCalls) 0 = (groundCheck? slimeGraph 0).or made := by
  have forest : slimeGraph.Forest := by
    rw [slimeGraph, Graph.spawn_eq_add]
    exact (Graph.orderly_empty.add "Slime" (by simp) fun _ => rfl).forest
  have inside : 0 < slimeGraph.size := by decide
  exact ⟨forest, inside, by decide +kernel, runCalls_checks_once forest inside patrolCalls⟩

end GameScenes.Behavior
