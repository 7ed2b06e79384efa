import GameScenes.Proofs.Behavior.Dressing
import GameScenes.Proofs.Text.Trimming
import Mathlib.Data.List.Find

/-!
# Ground checks of entities

The ground check of an entity is its first child of that name.  In a forest an entity keeps the one
that it has whatever is attached to it or to others, and an entity that has none gets one at most,
behind all of its children (`Dressing.anchored`).
-/

set_option autoImplicit false

namespace GameScenes.Behavior

open Scene (Entity Graph)

variable {g h k : Graph} {entity own anchor : EntityId} {xs ys : List Instance}

/-- Whether an entity has the name of a ground check, up to the case of letters. -/
def isNamedGroundCheck (g : Graph) (id : EntityId) : Bool :=
  ((g.get? id).map (·.name)).any fun name => Text.sameLetters name groundCheckName

theorem groundCheck?_eq (g : Graph) (entity : EntityId) :
    groundCheck? g entity = (g.children entity).find? (isNamedGroundCheck g) := by
  unfold groundCheck? Graph.childWhere?
  congr 1
  funext child
  unfold isNamedGroundCheck
  cases g.get? child <;> rfl

theorem isNamedGroundCheck_of_exact (named : (g.get? anchor).map (·.name) = some groundCheckName) :
    isNamedGroundCheck g anchor = true := by
  rw [isNamedGroundCheck, named, Option.any_some, Text.sameLetters_self]

/-! ## Making sure of one -/

/-- What comes of making sure of a ground check: the one that is there, or a new entity. -/
theorem ensureGroundCheck_cases (g : Graph) (entity : EntityId) :
    (groundCheck? g entity = some (ensureGroundCheck g entity).2 ∧
        (ensureGroundCheck g entity).1 = g) ∨
      (groundCheck? g entity = none ∧ (ensureGroundCheck g entity).2 = g.size ∧
        ∃ fill : Entity → Entity, (∀ e, (fill e).links = e.links) ∧ (∀ e, (fill e).name = e.name) ∧
          (ensureGroundCheck g entity).1 = g.add groundCheckName (some entity) fill) := by
  unfold ensureGroundCheck
  cases groundCheck? g entity with
  | some existing => exact .inl ⟨rfl, rfl⟩
  | none =>
      dsimp only
      rw [Graph.spawn_id]
      let fill : Entity → Entity := fun e =>
        { e with transform := { e.transform with
            position := ⟨(groundCheckPlace g entity).x, (groundCheckPlace g entity).y, 0⟩ } }
      exact .inr ⟨rfl, rfl, fill, fun _ => rfl, fun _ => rfl, rfl⟩

/-- In any graph, what is taken for a ground check has its name. -/
theorem isNamedGroundCheck_ensured (g : Graph) (entity : EntityId) :
    isNamedGroundCheck (ensureGroundCheck g entity).1 (ensureGroundCheck g entity).2 = true := by
  rcases ensureGroundCheck_cases g entity with ⟨there, same⟩ | ⟨-, last, fill, -, name, grown⟩
  · rw [groundCheck?_eq] at there
    rw [same]
    exact (List.find?_eq_some_iff_append.mp there).1
  · rw [last, grown]
    exact isNamedGroundCheck_of_exact (Graph.name_add g groundCheckName (some entity) name)

/-! ## At most one more -/

/-- That an entity has the ground check that it had before, or has got one behind its children when
it had none. -/
structure Anchored (own : EntityId) (g h : Graph) (made : Option EntityId) : Prop where
  forest : h.Forest
  grows : g.size ≤ h.size
  names : ∀ i < g.size, (h.get? i).map (·.name) = (g.get? i).map (·.name)
  children : h.children own = g.children own ++ made.toList
  new : ∀ a, made = some a → groundCheck? g own = none ∧ g.size ≤ a ∧
    (h.get? a).map (·.name) = some groundCheckName

namespace Anchored

variable {made more : Option EntityId}

theorem refl (forest : g.Forest) (own : EntityId) : Anchored own g g none where
  forest := forest
  grows := Nat.le_refl _
  names _ _ := rfl
  children := (List.append_nil _).symm
  new _ none_ := nomatch none_

/-- What was made is the ground check unless there was one before. -/
theorem groundCheck? (anchored : Anchored own g h made) (forest : g.Forest) :
    groundCheck? h own = (groundCheck? g own).or made := by
  have same : ∀ child ∈ g.children own,
      isNamedGroundCheck h child = isNamedGroundCheck g child := by
    intro child member
    have early := Graph.lt_of_parent? (forest.linked.mp member)
    rw [isNamedGroundCheck, anchored.names child early, isNamedGroundCheck]
  have last : made.toList.find? (isNamedGroundCheck h) = made := by
    cases made with
    | none => rfl
    | some a =>
        obtain ⟨-, -, named⟩ := anchored.new a rfl
        exact List.find?_cons_of_pos (isNamedGroundCheck_of_exact named)
  rw [groundCheck?_eq, anchored.children, List.find?_append, List.find?_congr same, last,
    groundCheck?_eq]

theorem kept (anchored : Anchored own g h made) (forest : g.Forest)
    (there : Behavior.groundCheck? g own = some anchor) :
    Behavior.groundCheck? h own = some anchor := by
  rw [anchored.groundCheck? forest, there, Option.some_or]

theorem trans (first : Anchored own g h made) (second : Anchored own h k more) (forest : g.Forest) :
    Anchored own g k (made.or more) where
  forest := second.forest
  grows := Nat.le_trans first.grows second.grows
  names i early :=
    (second.names i (Nat.lt_of_lt_of_le early first.grows)).trans (first.names i early)
  children := by
    rw [second.children, first.children, List.append_assoc]
    cases made with
    | none => rfl
    | some a =>
        -- who has got one does not get another one
        have there : Behavior.groundCheck? h own = some a := by
          rw [first.groundCheck? forest, (first.new a rfl).1, Option.none_or]
        cases more with
        | none => rfl
        | some b => cases there.symm.trans (second.new b rfl).1
  new a picked := by
    cases made with
    | some b =>
        obtain rfl : b = a := by cases more <;> exact Option.some.inj picked
        obtain ⟨none_, behind, named⟩ := first.new b rfl
        obtain ⟨e, found, -⟩ := Option.map_eq_some_iff.mp named
        exact ⟨none_, behind, (second.names b (Graph.lt_size found)).trans named⟩
    | none =>
        rw [Option.none_or] at picked
        obtain ⟨none_, behind, named⟩ := second.new a picked
        rw [first.groundCheck? forest, Option.or_none] at none_
        exact ⟨none_, Nat.le_trans first.grows behind, named⟩

end Anchored

theorem ensureGroundCheck_anchored (forest : g.Forest) (inside : own < g.size)
    (entity : EntityId) : ∃ made, Anchored own g (ensureGroundCheck g entity).1 made ∧
      (own = entity → (groundCheck? g own).or made = some (ensureGroundCheck g entity).2) := by
  rcases ensureGroundCheck_cases g entity with
    ⟨there, same⟩ | ⟨none_, last, fill, links, name, grown⟩
  · rw [same]
    refine ⟨none, .refl forest own, ?_⟩
    rintro rfl
    rw [there, Option.some_or]
  · have names : ∀ i < g.size, ((g.add groundCheckName (some entity) fill).get? i).map (·.name) =
        (g.get? i).map (·.name) := by
      intro i early
      have kept := congrArg (Option.map Entity.name) ((ensureGroundCheck_unlinked g entity).2 i early)
      rwa [Option.map_map, Option.map_map, grown] at kept
    have grows : g.size ≤ (g.add groundCheckName (some entity) fill).size := by
      rw [Graph.size_add]
      exact Nat.le_succ _
    have wellFormed := forest.add groundCheckName (some entity) links
    rw [grown, last]
    by_cases mine : entity = own
    · subst mine
      refine ⟨some g.size, ⟨wellFormed, grows, names, ?_, ?_⟩, fun _ => by rw [none_, Option.none_or]⟩
      · rw [forest.children_add (Graph.lt_of_some inside) inside, if_pos rfl]
        rfl
      · rintro a ⟨⟩
        exact ⟨none_, Nat.le_refl _, Graph.name_add g groundCheckName (some entity) name⟩
    · -- the ground check of another entity is no child of this one
      refine ⟨none, ⟨wellFormed, grows, names, ?_, fun a new => nomatch new⟩,
        fun same => absurd same.symm mine⟩
      rw [Graph.children_add_of_ne inside fun same => mine (Option.some.inj same)]
      exact (List.append_nil _).symm

/-- In a forest the first ground check is the one that is made sure of. -/
theorem groundCheck?_ensured (forest : g.Forest) (inside : entity < g.size) :
    groundCheck? (ensureGroundCheck g entity).1 entity = some (ensureGroundCheck g entity).2 := by
  obtain ⟨made, anchored, taken⟩ := ensureGroundCheck_anchored forest inside entity
  rw [anchored.groundCheck? forest, taken rfl]

/-! ## One more behavior -/

theorem children_addInstance (g : Graph) (entity own : EntityId) (i : Instance) :
    (addInstance g entity i).children own = g.children own := by
  rw [Graph.children_eq, addInstance, Graph.get?_modify, Graph.children_eq]
  split
  · rw [Option.elim_map]
    rfl
  · rfl

theorem name_addInstance (g : Graph) (entity id : EntityId) (i : Instance) :
    ((addInstance g entity i).get? id).map (·.name) = (g.get? id).map (·.name) := by
  rw [addInstance, Graph.get?_modify]
  split
  · rw [Option.map_map]
    rfl
  · rfl

theorem groundCheck?_addInstance (g : Graph) (entity own : EntityId) (i : Instance) :
    groundCheck? (addInstance g entity i) own = groundCheck? g own := by
  have same : isNamedGroundCheck (addInstance g entity i) = isNamedGroundCheck g := by
    funext id
    rw [isNamedGroundCheck, name_addInstance, isNamedGroundCheck]
  rw [groundCheck?_eq, children_addInstance, same, groundCheck?_eq]

theorem addInstance_anchored (forest : g.Forest) (own entity : EntityId) (i : Instance) :
    Anchored own g (addInstance g entity i) none where
  forest := forest.modify entity fun _ => rfl
  grows := by rw [addInstance, Graph.size_modify]
  names id _ := name_addInstance g entity id i
  children := by
    rw [children_addInstance]
    exact (List.append_nil _).symm
  new _ none_ := nomatch none_

/-! ## Any steps -/

namespace Dressing

/-- In any graph an entity keeps the ground check that it has. -/
theorem keeps_groundCheck (dressing : Dressing entity g xs h)
    (there : groundCheck? g entity = some anchor) : groundCheck? h entity = some anchor := by
  induction dressing with
  | done g => exact there
  | @check g h instances _ ih =>
      refine ih ?_
      rw [ensureGroundCheck, there]
      exact there
  | @wear g h instances i _ ih => exact ih ((groundCheck?_addInstance g entity entity i).trans there)

theorem anchored (dressing : Dressing entity g xs h) (forest : g.Forest) (inside : own < g.size) :
    ∃ made, Anchored own g h made := by
  induction dressing with
  | done g => exact ⟨none, .refl forest own⟩
  | @check g h instances _ ih =>
      obtain ⟨made, first, -⟩ := ensureGroundCheck_anchored forest inside entity
      obtain ⟨more, second⟩ := ih first.forest (Nat.lt_of_lt_of_le inside first.grows)
      exact ⟨_, first.trans second forest⟩
  | @wear g h instances i _ ih =>
      have first := addInstance_anchored forest own entity i
      obtain ⟨more, second⟩ := ih first.forest (Nat.lt_of_lt_of_le inside first.grows)
      exact ⟨_, first.trans second forest⟩

/-- In a forest every new entity is a child of the one that gets the behaviors. -/
theorem count (dressing : Dressing entity g xs h) (forest : g.Forest) (inside : entity < g.size) :
    h.size + (g.children entity).length = g.size + (h.children entity).length := by
  induction dressing with
  | done g => rfl
  | @check g h instances _ ih =>
      obtain ⟨made, first, -⟩ := ensureGroundCheck_anchored forest inside entity
      have rest := ih first.forest (Nat.lt_of_lt_of_le inside first.grows)
      rcases ensureGroundCheck_cases g entity with ⟨-, same⟩ | ⟨-, -, fill, -, -, grown⟩
      · rwa [same] at rest
      · rw [grown, forest.children_add (Graph.lt_of_some inside) inside, if_pos rfl,
          Graph.size_add, List.length_append, List.length_singleton] at rest
        omega
  | @wear g h instances i _ ih =>
      have first := addInstance_anchored forest entity entity i
      have rest := ih first.forest (Nat.lt_of_lt_of_le inside first.grows)
      rwa [children_addInstance, addInstance, Graph.size_modify] at rest

end Dressing

/-! ## What is taken for the ground check -/

/-- That an entity is what comes of making sure of a ground check somewhere on the way. -/
def EnsuredBetween (entity : EntityId) (g h : Graph) (a : EntityId) : Prop :=
  ∃ k xs ys, Dressing entity g xs k ∧ (ensureGroundCheck k entity).2 = a ∧
    Dressing entity (ensureGroundCheck k entity).1 ys h

theorem EnsuredBetween.between {f l : Graph} (first : Dressing entity f xs g)
    (ensured : EnsuredBetween entity g h anchor) (last : Dressing entity h ys l) :
    EnsuredBetween entity f l anchor := by
  obtain ⟨k, before, after, toward, taken, onward⟩ := ensured
  exact ⟨k, xs ++ before, after ++ ys, first.trans toward, taken, onward.trans last⟩

/-- That an entity is the ground check of another one at the end: it is named so, it is the one that
there was at the start, and in a forest it is the first one. -/
structure IsAnchor (entity : EntityId) (g h : Graph) (a : EntityId) : Prop where
  named : isNamedGroundCheck h a = true
  reused : ∀ existing, groundCheck? g entity = some existing → a = existing
  first : g.Forest → groundCheck? h entity = some a

theorem EnsuredBetween.isAnchor (ensured : EnsuredBetween entity g h anchor)
    (inside : entity < g.size) : IsAnchor entity g h anchor := by
  obtain ⟨k, xs, ys, toward, rfl, onward⟩ := ensured
  have still : entity < k.size := Nat.lt_of_lt_of_le inside toward.grows
  refine ⟨?named, ?reused, ?first⟩
  case named =>
    have named := isNamedGroundCheck_ensured k entity
    obtain ⟨name, found, -⟩ := (Option.any_eq_true ..).mp named
    obtain ⟨e, there, -⟩ := Option.map_eq_some_iff.mp found
    rwa [isNamedGroundCheck, onward.names (Graph.lt_size there)]
  case reused =>
    intro existing there
    rw [ensureGroundCheck, toward.keeps_groundCheck there]
  case first =>
    intro forest
    obtain ⟨made, anchored⟩ := toward.anchored forest inside
    exact onward.keeps_groundCheck (groundCheck?_ensured anchored.forest still)

end GameScenes.Behavior
