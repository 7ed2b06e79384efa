import GameScenes.Proofs.Build.Siblings
import GameScenes.Proofs.Scene.Extending

/-!
# Steps of attaching behaviors

Behaviors are attached to an entity in steps of two kinds: its ground check is made sure of, or the
entity gets one more instance (`Dressing`).  Whatever the graph looks like, the steps change nothing
of the entities that were there but their lists of children and the behaviors of this one entity.
-/

set_option autoImplicit false

namespace GameScenes.Behavior

open Document (Binding)
open Scene (Entity Graph)

variable {entity : EntityId} {g h k : Graph} {xs ys : List Instance} {i : Instance}

/-- How a graph changes while an entity gets these instances. -/
inductive Dressing (entity : EntityId) : Graph → List Instance → Graph → Prop
  | done (g : Graph) : Dressing entity g [] g
  | check {g h : Graph} {instances : List Instance} :
      Dressing entity (ensureGroundCheck g entity).1 instances h → Dressing entity g instances h
  | wear {g h : Graph} {instances : List Instance} (i : Instance) :
      Dressing entity (addInstance g entity i) instances h → Dressing entity g (i :: instances) h

theorem Dressing.trans (first : Dressing entity g xs h) (second : Dressing entity h ys k) :
    Dressing entity g (xs ++ ys) k := by
  induction first with
  | done g => exact second
  | check _ ih => exact .check (ih second)
  | wear i _ ih => exact .wear i (ih second)

/-! ## Attaching -/

theorem wireField_dressing (layers : LayerTable) (g : Graph) (i : Instance)
    (schema : FieldSchema) : Dressing entity g [] (wireField layers entity (g, i) schema).1 := by
  unfold wireField
  dsimp only
  split
  · exact .done g
  · split
    · exact .done g
    · exact .done g
    · exact .check (.done _)
    · exact .check (.done _)

theorem wireFields_dressing (layers : LayerTable) (schemas : List FieldSchema) (g : Graph)
    (i : Instance) :
    Dressing entity g [] (schemas.foldl (wireField layers entity) (g, i)).1 := by
  induction schemas generalizing g i with
  | nil => exact .done g
  | cons schema rest ih => exact (wireField_dressing layers g i schema).trans (ih ..)

/-- That an instance is what a behavior with these parameters gives somewhere on the way between two
graphs. -/
def WornBetween (layers : LayerTable) (entity : EntityId) (g h : Graph) (r : Registered)
    (parameters : List (String × Json)) (i : Instance) : Prop :=
  ∃ (site : BindingSite) (earlier later : List Instance), site.layers = layers ∧
    site.entity = entity ∧ Dressing entity g earlier site.graph ∧
    i = (r.wired site parameters).2 ∧ Dressing entity (r.wired site parameters).1 later h

section

variable {index : Index} {layers : LayerTable} {subject : String}

theorem WornBetween.between {f l : Graph} {r : Registered} {parameters : List (String × Json)}
    (first : Dressing entity f xs g) (worn : WornBetween layers entity g h r parameters i)
    (last : Dressing entity h ys l) : WornBetween layers entity f l r parameters i := by
  obtain ⟨site, earlier, later, same, placed, before, given, after⟩ := worn
  exact ⟨site, xs ++ earlier, later ++ ys, same, placed, first.trans before, given,
    after.trans last⟩

theorem resolved_cons (binding : Binding) (rest : List Binding) :
    resolved index (binding :: rest) = (standing? index binding).toList ++ resolved index rest := by
  unfold resolved
  rw [List.filterMap_cons]
  cases standing? index binding <;> rfl

/-- A binding gives an instance exactly if its name stands for a behavior. -/
theorem attachOne_dressing (index : Index) (layers : LayerTable) (entity : EntityId)
    (subject : String) (g : Graph) (binding : Binding) :
    ∃ instances, instances.length = (standing? index binding).toList.length ∧
      Dressing entity g instances (attachOne index layers entity subject g binding).1 ∧
      ∀ i ∈ instances, ∃ r, index.lookup binding.name = .ok r ∧
        WornBetween layers entity g (attachOne index layers entity subject g binding).1 r
          binding.parameters i := by
  cases found : index.lookup binding.name with
  | error fault =>
      rw [attachOne_of_error found]
      refine ⟨[], ?_, .done g, nofun⟩
      simp [standing?, found]
  | ok r =>
      rw [attachOne_of_ok found]
      let site : BindingSite := ⟨g, layers, entity, subject⟩
      have wiring : Dressing entity g [] (r.wired site binding.parameters).1 :=
        wireFields_dressing layers r.descriptor.fields g _
      have worn : Dressing entity (r.wired site binding.parameters).1
          [(r.wired site binding.parameters).2]
          (addInstance (r.wired site binding.parameters).1 entity
            (r.wired site binding.parameters).2) := .wear _ (.done _)
      refine ⟨[(r.wired site binding.parameters).2], ?_, wiring.trans worn, fun i member => ?_⟩
      · simp [standing?, found]
      · obtain rfl := List.mem_singleton.mp member
        exact ⟨r, rfl, site, [], _, rfl, rfl, .done g, rfl, worn⟩

theorem attachEach_dressing (index : Index) (layers : LayerTable) (entity : EntityId)
    (subject : String) (g : Graph) (bindings : List Binding) :
    ∃ instances, instances.length = (resolved index bindings).length ∧
      Dressing entity g instances (attachEach index layers entity subject g bindings).1 ∧
      ∀ i ∈ instances, ∃ binding ∈ bindings, ∃ r, index.lookup binding.name = .ok r ∧
        WornBetween layers entity g (attachEach index layers entity subject g bindings).1 r
          binding.parameters i := by
  induction bindings generalizing g with
  | nil => exact ⟨[], rfl, .done g, nofun⟩
  | cons binding rest ih =>
      rw [attachEach]
      obtain ⟨here, length, step, worn⟩ := attachOne_dressing index layers entity subject g binding
      obtain ⟨later, further, run, wornLater⟩ :=
        ih (attachOne index layers entity subject g binding).1
      refine ⟨here ++ later, ?_, step.trans run, fun i member => ?_⟩
      · rw [resolved_cons, List.length_append, List.length_append, length, further]
      · rcases List.mem_append.mp member with first | behind
        · obtain ⟨r, found, between⟩ := worn i first
          exact ⟨binding, List.mem_cons_self .., r, found, .between (.done g) between run⟩
        · obtain ⟨other, among, r, found, between⟩ := wornLater i behind
          exact ⟨other, List.mem_cons_of_mem _ among, r, found, between.between step (.done _)⟩

/-- The instance of a binding stands behind those of the bindings before it. -/
theorem attachEach_dressing_at (front back : List Binding) {binding : Binding} {r : Registered}
    (found : index.lookup binding.name = .ok r) {site : BindingSite}
    (here : site = ⟨(attachEach index layers entity subject g front).1, layers, entity, subject⟩) :
    ∃ earlier later, earlier.length = (resolved index front).length ∧
      Dressing entity g earlier site.graph ∧
      Dressing entity (r.wired site binding.parameters).1
        ((r.wired site binding.parameters).2 :: later)
        (attachEach index layers entity subject g (front ++ binding :: back)).1 := by
  subst here
  obtain ⟨earlier, length, before, -⟩ := attachEach_dressing index layers entity subject g front
  rw [attachEach_append, attachEach, attachOne_of_ok found]
  obtain ⟨later, -, after, -⟩ := attachEach_dressing index layers entity subject
    (addInstance (r.wired _ binding.parameters).1 entity (r.wired _ binding.parameters).2) back
  exact ⟨earlier, later, length, before, .wear _ after⟩

end

/-- Where the parameters of a binding are bound that comes after others. -/
def siteAfter (index : Index) (layers : LayerTable) (g : Graph) (entity : EntityId)
    (front : List Binding) : BindingSite :=
  ⟨(attach index layers g entity front).1, layers, entity, ((g.get? entity).map (·.name)).getD ""⟩

theorem attach_eq_attachEach (index : Index) (layers : LayerTable) (g : Graph) (entity : EntityId)
    (bindings : List Binding) :
    attach index layers g entity bindings =
      attachEach index layers entity (((g.get? entity).map (·.name)).getD "") g bindings := by
  unfold attach
  cases g.get? entity <;> rfl

/-- That an instance is what a binding gives: it stands behind the behaviors that the entity had
before and behind those of the bindings that come first. -/
def Given (index : Index) (entity : EntityId) (g h : Graph) (front : List Binding)
    (i : Instance) : Prop :=
  ∃ before after, g.get? entity = some before ∧ h.get? entity = some after ∧
    after.components.behaviors[before.components.behaviors.length +
      (resolved index front).length]? = some i

/-! ## What stays -/

/-- A ground check leaves the entities that were there as they are, apart from their lists of
children. -/
theorem ensureGroundCheck_unlinked (g : Graph) (entity : EntityId) :
    g.size ≤ (ensureGroundCheck g entity).1.size ∧ ∀ i < g.size,
      ((ensureGroundCheck g entity).1.get? i).map Entity.unlinked =
        (g.get? i).map Entity.unlinked := by
  unfold ensureGroundCheck
  cases groundCheck? g entity with
  | some anchor => exact ⟨Nat.le_refl _, fun _ _ => rfl⟩
  | none =>
      dsimp only
      rw [Graph.spawn_id]
      refine ⟨?_, fun i early => ?_⟩
      · rw [Graph.size_modify]
        exact Nat.le_of_lt (Graph.lt_size_spawn ..)
      · exact Graph.unlinked_add g groundCheckName _ _ (Nat.ne_of_lt early)

namespace Dressing

theorem grows (dressing : Dressing entity g xs h) : g.size ≤ h.size := by
  induction dressing with
  | done g => exact Nat.le_refl _
  | check _ ih => exact Nat.le_trans (ensureGroundCheck_unlinked _ entity).1 ih
  | wear i _ ih =>
      rw [addInstance, Graph.size_modify] at ih
      exact ih

theorem own (dressing : Dressing entity g xs h) (inside : entity < g.size) :
    (h.get? entity).map Entity.unlinked = (g.get? entity).map (dressed xs) := by
  induction dressing with
  | done g => rw [dressed_nil]
  | @check g h instances _ ih =>
      obtain ⟨grows, kept⟩ := ensureGroundCheck_unlinked g entity
      have same := congrArg (Option.map (dressed instances)) (kept entity inside)
      rw [Option.map_map, Option.map_map] at same
      exact (ih (Nat.lt_of_lt_of_le inside grows)).trans same
  | @wear g h instances i _ ih =>
      have still : entity < (addInstance g entity i).size := by
        rwa [addInstance, Graph.size_modify]
      rw [ih still, addInstance, Graph.get?_modify_self, Option.map_map]
      congr 1
      funext e
      simp [dressed, Entity.unlinked]

theorem others (dressing : Dressing entity g xs h) {i : EntityId} (early : i < g.size)
    (other : i ≠ entity) :
    (h.get? i).map Entity.unlinked = (g.get? i).map Entity.unlinked := by
  induction dressing with
  | done g => rfl
  | check _ ih =>
      obtain ⟨grows, kept⟩ := ensureGroundCheck_unlinked _ entity
      exact (ih (Nat.lt_of_lt_of_le early grows)).trans (kept i early)
  | wear i _ ih =>
      rw [addInstance, Graph.size_modify] at ih
      rw [ih early, Graph.get?_modify_of_ne _ _ other.symm]

/-- What does not depend on children and behaviors stays as it is. -/
theorem view {α : Type} {look : Entity → α} (dressing : Dressing entity g xs h)
    (unlinked : ∀ e, look e.unlinked = look e)
    (undressed : ∀ e, look (dressed xs e) = look e) {i : EntityId} (early : i < g.size) :
    (h.get? i).map look = (g.get? i).map look := by
  have through : ∀ found : Option Entity, found.map look = (found.map Entity.unlinked).map look := by
    intro found
    rw [Option.map_map]
    congr 1
    funext e
    exact (unlinked e).symm
  rw [through]
  by_cases own_ : i = entity
  · subst own_
    rw [dressing.own early, Option.map_map]
    congr 1
    funext e
    exact undressed e
  · rw [dressing.others early own_, ← through]

theorem names (dressing : Dressing entity g xs h) {i : EntityId} (early : i < g.size) :
    (h.get? i).map (·.name) = (g.get? i).map (·.name) :=
  dressing.view (fun _ => rfl) (fun _ => rfl) early

theorem hasBody (dressing : Dressing entity g xs h) {i : EntityId} (early : i < g.size) :
    hasComponent h i .body = hasComponent g i .body := by
  have seen : ∀ f : Graph, hasComponent f i .body =
      ((f.get? i).map (·.components.body.isSome)).getD false := by
    intro f
    unfold hasComponent
    cases f.get? i <;> rfl
  rw [seen, dressing.view (fun _ => rfl) (fun _ => rfl) early, ← seen]

theorem given (dressing : Dressing entity g (xs ++ i :: ys) h) (inside : entity < g.size)
    {index : Index} {front : List Binding} (length : xs.length = (resolved index front).length) :
    Given index entity g h front i := by
  obtain ⟨before, found⟩ := Graph.exists_of_lt inside
  have own := dressing.own inside
  rw [found] at own
  obtain ⟨after, there, same⟩ := Option.map_eq_some_iff.mp own
  have worn : after.components.behaviors = before.components.behaviors ++ (xs ++ i :: ys) :=
    congrArg (·.components.behaviors) same
  refine ⟨before, after, found, there, ?_⟩
  rw [worn, ← length, List.getElem?_append_right (Nat.le_add_right ..), Nat.add_sub_cancel_left,
    List.getElem?_append_right (Nat.le_refl _), Nat.sub_self]
  rfl

end Dressing

/-- A binding whose name stands for a behavior gives an instance that is wired where the bindings
before it end. -/
theorem attach_gives (index : Index) (layers : LayerTable) (inside : entity < g.size)
    (front back : List Binding) {binding : Binding} {r : Registered}
    (found : index.lookup binding.name = .ok r) {site : BindingSite}
    (here : site = siteAfter index layers g entity front) :
    ∃ earlier later, Dressing entity g earlier site.graph ∧
      Dressing entity (r.wired site binding.parameters).1
        ((r.wired site binding.parameters).2 :: later)
        (attach index layers g entity (front ++ binding :: back)).1 ∧
      Given index entity g (attach index layers g entity (front ++ binding :: back)).1 front
        (r.wired site binding.parameters).2 := by
  rw [siteAfter, attach_eq_attachEach] at here
  obtain ⟨earlier, later, length, before, after⟩ := attachEach_dressing_at front back found here
  rw [attach_eq_attachEach index layers g entity (front ++ binding :: back)]
  have placed : site.entity = entity := by rw [here]
  have wiring : Dressing entity site.graph [] (r.wired site binding.parameters).1 :=
    placed ▸ wireFields_dressing site.layers r.descriptor.fields site.graph _
  exact ⟨earlier, later, before, after, (before.trans (wiring.trans after)).given inside length⟩

end GameScenes.Behavior
