import GameScenes.Behavior.Attachment
import GameScenes.Proofs.Scene.Extending

/-!
# What attaching behaviors changes

Attaching behaviors to an entity of a forest adds instances to this entity and at most ground checks
below it; nothing else in the graph changes (`attach_attaches`).  The graph stays a forest, and one
that was only ever extended stays orderly.
-/

set_option autoImplicit false

namespace GameScenes.Behavior

open Document (Binding)
open Scene (Components Entity Graph)

/-- An entity with more behaviors, apart from the entities below it. -/
def dressed (instances : List Instance) (e : Entity) : Entity :=
  { e.unlinked with
    components := { e.components with behaviors := e.components.behaviors ++ instances } }

/-- That an entity is a place at which another one checks for ground, and nothing else. -/
structure IsGroundCheck (owner : EntityId) (e : Entity) : Prop where
  name : e.name = groundCheckName
  parent : e.parent = some owner
  bare : e.components = Components.none

/-- How a graph changes while these behaviors are attached to an entity. -/
structure Attaches (entity : EntityId) (g h : Graph) (instances : List Instance) : Prop where
  forest : h.Forest
  orderly : g.Orderly → h.Orderly
  grows : g.size ≤ h.size
  own : (h.get? entity).map Entity.unlinked = (g.get? entity).map (dressed instances)
  others : ∀ i, i < g.size → i ≠ entity →
    (h.get? i).map Entity.unlinked = (g.get? i).map Entity.unlinked
  checks : ∀ i e, g.size ≤ i → h.get? i = some e → IsGroundCheck entity e

variable {entity : EntityId} {g h k : Graph} {xs ys : List Instance}

theorem dressed_nil : dressed [] = Entity.unlinked := by
  funext e
  simp [dressed, Entity.unlinked]

theorem dressed_append (xs ys : List Instance) (e : Entity) :
    dressed ys (dressed xs e) = dressed (xs ++ ys) e := by
  simp [dressed, Entity.unlinked]

namespace Attaches

theorem refl (forest : g.Forest) (entity : EntityId) : Attaches entity g g [] where
  forest := forest
  orderly := id
  grows := Nat.le_refl _
  own := by rw [dressed_nil]
  others _ _ _ := rfl
  checks i e outside found := absurd (Graph.lt_size found) (Nat.not_lt.mpr outside)

theorem trans (inside : entity < g.size) (first : Attaches entity g h xs)
    (second : Attaches entity h k ys) : Attaches entity g k (xs ++ ys) where
  forest := second.forest
  orderly := second.orderly ∘ first.orderly
  grows := Nat.le_trans first.grows second.grows
  own := by
    have ahead := congrArg (Option.map (dressed ys)) first.own
    rw [Option.map_map, Option.map_map] at ahead
    rw [second.own]
    refine Eq.trans ahead ?_
    congr 1
    funext e
    exact dressed_append xs ys e
  others i old other := by
    rw [second.others i (Nat.lt_of_lt_of_le old first.grows) other, first.others i old other]
  checks i e outside found := by
    by_cases early : i < h.size
    · have other : i ≠ entity := fun same => Nat.not_lt.mpr outside (same ▸ inside)
      have same := second.others i early other
      rw [found] at same
      obtain ⟨before, there, equal⟩ := Option.map_eq_some_iff.mp same.symm
      obtain ⟨name, parent, bare⟩ := first.checks i before outside there
      exact ⟨(congrArg Entity.name equal).symm.trans name,
        (congrArg Entity.parent equal).symm.trans parent,
        (congrArg Entity.components equal).symm.trans bare⟩
    · exact second.checks i e (Nat.not_lt.mp early) found

end Attaches

/-! ## Ground checks -/

/-- A new ground check is all that comes to a graph in which one is made. -/
theorem add_attaches (forest : g.Forest) (inside : entity < g.size) {fill : Entity → Entity}
    (links : ∀ e, (fill e).links = e.links) (name : ∀ e, (fill e).name = e.name)
    (bare : ∀ e, (fill e).components = e.components) :
    Attaches entity g (g.add groundCheckName (some entity) fill) [] := by
  refine ⟨forest.add groundCheckName _ links, ?_, ?_, ?_, ?_, ?_⟩
  · intro orderly
    exact orderly.add groundCheckName (Graph.lt_of_some inside) links
  · rw [Graph.size_add]
    exact Nat.le_succ _
  · rw [dressed_nil]
    exact Graph.unlinked_add g groundCheckName _ fill (Nat.ne_of_lt inside)
  · intro i old _
    exact Graph.unlinked_add g groundCheckName _ fill (Nat.ne_of_lt old)
  · intro i e outside found
    have last := Graph.lt_size found
    rw [Graph.size_add] at last
    obtain rfl : i = g.size := Nat.le_antisymm (Nat.lt_succ_iff.mp last) outside
    rw [forest.get?_add_new groundCheckName inside] at found
    cases found
    have parent := congrArg (·.2.1) (links { Entity.blank g.size groundCheckName with
      parent := some entity })
    exact ⟨name _, parent, bare _⟩

theorem ensureGroundCheck_attaches (forest : g.Forest) (inside : entity < g.size) :
    Attaches entity g (ensureGroundCheck g entity).1 [] ∧
      (ensureGroundCheck g entity).2 < (ensureGroundCheck g entity).1.size := by
  unfold ensureGroundCheck
  cases existing : groundCheck? g entity with
  | some anchor => exact ⟨.refl forest entity, Graph.lt_of_childWhere? existing⟩
  | none =>
      dsimp only
      rw [Graph.spawn_id]
      refine ⟨add_attaches forest inside ?_ ?_ ?_, ?_⟩
      · exact fun e => rfl
      · exact fun e => rfl
      · exact fun e => rfl
      · rw [Graph.size_modify]
        exact Graph.lt_size_spawn ..

/-! ## Instances -/

theorem wireField_attaches (layers : LayerTable) (forest : g.Forest) (inside : entity < g.size)
    (i : Instance) (schema : FieldSchema) :
    Attaches entity g (wireField layers entity (g, i) schema).1 [] := by
  unfold wireField
  dsimp only
  split
  · exact .refl forest entity
  · split
    · exact .refl forest entity
    · exact .refl forest entity
    · exact (ensureGroundCheck_attaches forest inside).1
    · exact (ensureGroundCheck_attaches forest inside).1

theorem wireFields_attaches (layers : LayerTable) (schemas : List FieldSchema)
    (forest : g.Forest) (inside : entity < g.size) (i : Instance) :
    Attaches entity g (schemas.foldl (wireField layers entity) (g, i)).1 [] := by
  induction schemas generalizing g i with
  | nil => exact .refl forest entity
  | cons schema rest ih =>
      have first := wireField_attaches layers forest inside i schema
      rw [List.foldl_cons]
      generalize wireField layers entity (g, i) schema = wired at first ⊢
      obtain ⟨grown, wiring⟩ := wired
      have further := ih first.forest (Nat.lt_of_lt_of_le inside first.grows) wiring
      exact first.trans inside further

theorem addInstance_attaches (forest : g.Forest) (entity : EntityId) (i : Instance) :
    Attaches entity g (addInstance g entity i) [i] where
  forest := forest.modify entity fun e => rfl
  orderly orderly := orderly.modify entity fun e => rfl
  grows := Nat.le_of_eq (Graph.size_modify g entity _).symm
  own := by
    rw [addInstance, Graph.get?_modify_self, Option.map_map]
    rfl
  others j _ other := by
    rw [addInstance, Graph.get?_modify_of_ne g _ other.symm]
  checks j e outside found := by
    have last := Graph.lt_size found
    rw [addInstance, Graph.size_modify] at last
    exact absurd last (Nat.not_lt.mpr outside)

section

variable (index : Index) (layers : LayerTable) (subject : String)

/-- An unknown behavior changes nothing; any other one is wired and added. -/
theorem attachOne_attaches (forest : g.Forest) (inside : entity < g.size) (binding : Binding) :
    ∃ instances, Attaches entity g (attachOne index layers entity subject g binding).1
      instances := by
  unfold attachOne
  cases index.lookup binding.name with
  | error fault => exact ⟨[], .refl forest entity⟩
  | ok registered =>
      dsimp only
      have wiring := wireFields_attaches layers registered.descriptor.fields forest inside
        (bindExplicit ⟨g, layers, entity, subject⟩ registered.descriptor
          ⟨registered.module, registered.descriptor.name, Dictionary.empty⟩
          binding.parameters).1
      exact ⟨_, wiring.trans inside (addInstance_attaches wiring.forest entity _)⟩

theorem attachEach_attaches (forest : g.Forest) (inside : entity < g.size)
    (bindings : List Binding) :
    ∃ instances, Attaches entity g (attachEach index layers entity subject g bindings).1
      instances := by
  induction bindings generalizing g with
  | nil => exact ⟨[], .refl forest entity⟩
  | cons binding rest ih =>
      unfold attachEach
      obtain ⟨first, step⟩ := attachOne_attaches index layers subject forest inside binding
      obtain ⟨others, run⟩ := ih step.forest (Nat.lt_of_lt_of_le inside step.grows)
      exact ⟨first ++ others, step.trans inside run⟩

theorem attach_attaches (forest : g.Forest) (inside : entity < g.size)
    (bindings : List Binding) :
    ∃ instances, Attaches entity g (attach index layers g entity bindings).1 instances :=
  attachEach_attaches index layers _ forest inside bindings

end

end GameScenes.Behavior
