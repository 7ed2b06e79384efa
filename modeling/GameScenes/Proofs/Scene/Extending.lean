import GameScenes.Proofs.Scene.Reparenting

/-!
# What a new entity changes

A new entity stands behind all others, and all that it changes of them is the list of children of
its parent (`extends_spawn`).  What is done later to it and to entities behind it leaves that so
(`Extends.later`).
-/

set_option autoImplicit false

namespace GameScenes.Scene.Graph

open Relation (ReflTransGen)

variable {g h k : Graph} {id new : EntityId} {limit : Nat} {wanted : Option EntityId}

/-! ## Entities before others -/

/-- That nothing happens to the entities before some position, and that entities are neither removed
nor moved. -/
structure Spares (limit : Nat) (g h : Graph) : Prop where
  entities : ∀ i < limit, h.get? i = g.get? i
  parents : ∀ i < g.size, h.parent? i = g.parent? i
  grows : g.size ≤ h.size

theorem Spares.refl (limit : Nat) (g : Graph) : Spares limit g g where
  entities _ _ := rfl
  parents _ _ := rfl
  grows := Nat.le_refl _

theorem Spares.trans (first : Spares limit g h) (second : Spares limit h k) :
    Spares limit g k where
  entities i early := (second.entities i early).trans (first.entities i early)
  parents i early :=
    (second.parents i (Nat.lt_of_lt_of_le early first.grows)).trans (first.parents i early)
  grows := Nat.le_trans first.grows second.grows

theorem parent?_modify {change : Entity → Entity} (parent : ∀ e, (change e).parent = e.parent)
    (g : Graph) (id i : EntityId) : (g.modify id change).parent? i = g.parent? i := by
  rw [parent?, get?_modify, parent?]
  split
  · rw [Option.bind_map]
    exact congrArg (Option.bind (g.get? i)) (funext parent)
  · rfl

theorem spares_modify {change : Entity → Entity} (parent : ∀ e, (change e).parent = e.parent)
    (g : Graph) (behind : limit ≤ id) : Spares limit g (g.modify id change) where
  entities _ early := get?_modify_of_ne g change (Nat.ne_of_gt (Nat.lt_of_lt_of_le early behind))
  parents _ _ := parent?_modify parent g id _
  grows := Nat.le_of_eq (size_modify g id change).symm

/-! ## New entities -/

/-- How a new entity comes to a graph: below the entity that is wanted as its parent, if there is
one, or at the root. -/
structure Extends (g h : Graph) (new : EntityId) (wanted : Option EntityId) : Prop where
  behind : g.size ≤ new
  made : new < h.size
  parent : h.parent? new = wanted ∨ h.parent? new = none
  spared : ∀ i < g.size, h.get? i = (g.get? i).map fun e =>
    if h.parent? new = some i then { e with children := e.children ++ [new] } else e
  placed : g.Forest → (∀ p, wanted = some p → p < new) → h.parent? new = wanted

theorem Extends.later (extended : g.Extends h new wanted) (later : Spares new h k) :
    g.Extends k new wanted := by
  have same : k.parent? new = h.parent? new := later.parents new extended.made
  refine ⟨extended.behind, Nat.lt_of_lt_of_le extended.made later.grows, ?_, ?_, ?_⟩
  · rw [same]
    exact extended.parent
  · intro i early
    rw [later.entities i (Nat.lt_of_lt_of_le early extended.behind), same]
    exact extended.spared i early
  · intro forest exist
    rw [same]
    exact extended.placed forest exist

/-- An entity without a parent may come first. -/
theorem Extends.after_root (name : String)
    (extended : (g.spawn name none).1.Extends h new wanted) : g.Extends h new wanted := by
  have wide : g.size ≤ (g.spawn name none).1.size := Nat.le_of_lt (lt_size_spawn g name none)
  refine ⟨Nat.le_trans wide extended.behind, extended.made, extended.parent, ?_, ?_⟩
  · intro i early
    have first : (g.spawn name none).1.get? i = g.get? i := by
      show (g.push (Entity.blank g.size name)).get? i = _
      rw [get?_push, if_neg (Nat.ne_of_lt early)]
    rw [extended.spared i (Nat.lt_of_lt_of_le early wide), first]
  · intro forest
    exact extended.placed (forest.spawn name none)

/-- A new entity is put below the wanted parent or stays where it is made. -/
theorem spawn_cases (g : Graph) (name : String) (wanted : Option EntityId) :
    (g.spawn name wanted).1 = g.push (Entity.blank g.size name) ∨
      ∃ p, wanted = some p ∧
        (g.spawn name wanted).1 = (g.push (Entity.blank g.size name)).link g.size p := by
  cases wanted with
  | none => exact .inl rfl
  | some p =>
      unfold spawn
      dsimp only
      unfold setParent?
      split
      · exact .inl rfl
      · exact .inr ⟨p, rfl, rfl⟩

/-- On a forest nothing stands below an entity that was only just made, so that it is not refused a
parent that exists. -/
theorem Forest.spawn_eq_link (forest : g.Forest) (name : String) {p : EntityId}
    (inside : p < g.size) :
    (g.spawn name (some p)).1 = (g.push (Entity.blank g.size name)).link g.size p := by
  have free : (g.push (Entity.blank g.size name)).MayMove g.size p := by
    refine ⟨?_, ?_, ?_⟩
    · rw [size_push]
      exact Nat.lt_succ_self _
    · rw [size_push]
      exact Nat.lt_succ_of_lt inside
    · intro below
      rcases ReflTransGen.cases_head_iff.mp below with same | ⟨child, up, -⟩
      · exact Nat.ne_of_gt inside same
      · rw [parent?_push_blank] at up
        exact Nat.lt_irrefl _ (forest.parent_lt up)
  show ((g.push (Entity.blank g.size name)).setParent? g.size p).getD _ = _
  rw [(forest.push_blank name).setParent?_of_mayMove free]
  rfl

theorem parent?_new (g : Graph) (name : String) :
    (g.push (Entity.blank g.size name)).parent? g.size = none := by
  rw [parent?_push_blank, parent?, get?_eq_none_iff.mpr (Nat.le_refl _)]
  rfl

theorem parent?_link_new (g : Graph) (name : String) (p : EntityId) :
    ((g.push (Entity.blank g.size name)).link g.size p).parent? g.size = some p := by
  rw [parent?_link (by rw [size_push]; exact Nat.lt_succ_self _), if_pos rfl]

/-- All that a new entity changes of those before it is the list of children of its parent. -/
theorem extends_spawn (g : Graph) (name : String) (wanted : Option EntityId) :
    g.Extends (g.spawn name wanted).1 g.size wanted := by
  refine ⟨Nat.le_refl _, lt_size_spawn g name wanted, ?_, ?_, ?_⟩
  · rcases spawn_cases g name wanted with alone | ⟨p, rfl, linked⟩
    · exact .inr (alone ▸ parent?_new g name)
    · exact .inl (linked ▸ parent?_link_new g name p)
  · intro i early
    have kept : (g.push (Entity.blank g.size name)).get? i = g.get? i := by
      rw [get?_push, if_neg (Nat.ne_of_lt early)]
    rcases spawn_cases g name wanted with alone | ⟨p, rfl, linked⟩
    · rw [alone, kept, parent?_new]
      simp
    · -- the new entity had no parent, whose list it would have to leave
      rw [linked, parent?_link_new, get?_link, kept, parent?_new]
      congr 1
      funext e
      have apart : g.size ≠ i := Nat.ne_of_gt early
      by_cases owner : p = i <;> simp [apart, owner]
  · intro forest exist
    cases wanted with
    | none => exact parent?_new g name
    | some p => rw [forest.spawn_eq_link name (exist p rfl), parent?_link_new]

/-- The entities before a position are spared by a new one whose parent does not stand before it. -/
theorem spares_spawn (g : Graph) (name : String) (inside : limit ≤ g.size)
    (behind : ∀ p, wanted = some p → limit ≤ p) : Spares limit g (g.spawn name wanted).1 where
  entities i early := by
    have extended := extends_spawn g name wanted
    have apart : (g.spawn name wanted).1.parent? g.size ≠ some i := by
      rcases extended.parent with below | root
      · intro owner
        exact Nat.not_lt.mpr (behind i (below.symm.trans owner)) early
      · simp [root]
    rw [extended.spared i (Nat.lt_of_lt_of_le early inside)]
    simp [apart]
  parents i early := by
    rcases spawn_cases g name wanted with alone | ⟨p, -, linked⟩
    · rw [alone, parent?_push_blank]
    · rw [linked, parent?_link (by rw [size_push]; exact Nat.lt_succ_self _),
        if_neg (Nat.ne_of_gt early), parent?_push_blank]
  grows := Nat.le_of_lt (lt_size_spawn g name wanted)

theorem name_spawn (g : Graph) (name : String) (wanted : Option EntityId) :
    ((g.spawn name wanted).1.get? g.size).map (·.name) = some name := by
  have made : (g.push (Entity.blank g.size name)).get? g.size =
      some (Entity.blank g.size name) := by
    rw [get?_push, if_pos rfl]
  rcases spawn_cases g name wanted with alone | ⟨p, -, linked⟩
  · rw [alone, made]
    rfl
  · rw [linked, get?_link, made]
    rfl

/-! ## New entities with content -/

section

variable {name : String} {fill : Entity → Entity}

theorem name_add (g : Graph) (name : String) (wanted : Option EntityId)
    (kept : ∀ e, (fill e).name = e.name) :
    ((g.add name wanted fill).get? g.size).map (·.name) = some name := by
  rw [add, get?_modify_self, Option.map_map]
  exact (congrArg (Option.map · _) (funext kept)).trans (name_spawn g name wanted)

/-- An entity below which nothing is wanted keeps its children. -/
theorem children_add_of_ne {i : EntityId} (early : i < g.size) (other : wanted ≠ some i) :
    (g.add name wanted fill).children i = g.children i := by
  have extended := extends_spawn g name wanted
  have apart : (g.spawn name wanted).1.parent? g.size ≠ some i := by
    rcases extended.parent with below | root
    · rwa [below]
    · simp [root]
  rw [children_eq, Graph.add, get?_modify_of_ne _ _ (Nat.ne_of_gt early),
    extended.spared i early, children_eq, Option.elim_map]
  simp only [apart, if_false]
  rfl

/-- A new entity leaves every other one as it is, apart from the entities below it. -/
theorem unlinked_add (g : Graph) (name : String) (wanted : Option EntityId)
    (fill : Entity → Entity) {i : EntityId} (old : i ≠ g.size) :
    ((g.add name wanted fill).get? i).map Entity.unlinked = (g.get? i).map Entity.unlinked := by
  rw [Graph.add, get?_modify_of_ne _ _ old.symm]
  by_cases early : i < g.size
  · rw [(extends_spawn g name wanted).spared i early, Option.map_map]
    congr 1
    funext e
    dsimp only [Function.comp]
    split <;> rfl
  · have outside : g.size + 1 ≤ i := Nat.lt_of_le_of_ne (Nat.not_lt.mp early) old.symm
    rw [get?_eq_none_iff.mpr (Nat.not_lt.mp early),
      get?_eq_none_iff.mpr ((size_spawn g name wanted).symm ▸ outside)]

theorem Forest.add (forest : g.Forest) (name : String) (wanted : Option EntityId)
    (links : ∀ e, (fill e).links = e.links) : (g.add name wanted fill).Forest :=
  (forest.spawn name wanted).modify g.size links

/-- A new entity has the wanted parent, if that exists, and its content. -/
theorem Forest.get?_add_new (forest : g.Forest) (name : String) {p : EntityId}
    (inside : p < g.size) (fill : Entity → Entity) :
    (g.add name (some p) fill).get? g.size =
      some (fill { Entity.blank g.size name with parent := some p }) := by
  have apart : p ≠ g.size := Nat.ne_of_lt inside
  rw [Graph.add, get?_modify_self, forest.spawn_eq_link name inside, get?_link, get?_push,
    if_pos rfl, parent?_new]
  simp [apart]

/-- A new entity comes last among the children of its parent. -/
theorem Forest.children_add (forest : g.Forest) (exist : ∀ p, wanted = some p → p < g.size)
    {i : EntityId} (early : i < g.size) :
    (g.add name wanted fill).children i =
      g.children i ++ if wanted = some i then [g.size] else [] := by
  have extended := extends_spawn g name wanted
  rw [children_eq, Graph.add, get?_modify_of_ne _ _ (Nat.ne_of_gt early),
    extended.spared i early, extended.placed forest exist, children_eq]
  obtain ⟨e, found⟩ := exists_of_lt early
  rw [found]
  by_cases below : wanted = some i
  · simp [below]
  · simp [below]

end

end GameScenes.Scene.Graph
