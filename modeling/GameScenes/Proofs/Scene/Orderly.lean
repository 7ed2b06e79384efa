import GameScenes.Scene.Reference

/-!
# Orderly graphs

In a graph that is only ever extended, every entity stands at the position that its identifier
says, below an entity that was made before it, and lists the entities that name it as their parent
in the order of their creation (`Graph.Orderly`).  New entities keep a graph orderly, and so does
whatever leaves the links between entities alone.
-/

set_option autoImplicit false

namespace GameScenes.Scene

namespace Entity

/-- What ties an entity to others. -/
def links (e : Entity) : EntityId × Option EntityId × List EntityId := (e.id, e.parent, e.children)

/-- An entity apart from the entities below it. -/
def unlinked (e : Entity) : Entity := { e with children := [] }

theorem eq_of_unlinked {e e' : Entity} (same : e'.unlinked = e.unlinked) :
    e' = { e with children := e'.children } := by
  cases e
  cases e'
  simp only [unlinked, mk.injEq] at same
  simp [same]

end Entity

namespace Graph

variable {g h : Graph} {id : EntityId} {e : Entity}

/-! ## Entities of a graph -/

theorem lt_size (found : g.get? id = some e) : id < g.size := by
  obtain ⟨inside, -⟩ := Array.getElem?_eq_some_iff.mp found
  exact inside

theorem exists_of_lt (inside : id < g.size) : ∃ e, g.get? id = some e :=
  ⟨g.entities[id], Array.getElem?_eq_getElem inside⟩

theorem lt_of_some (inside : id < g.size) : ∀ p, some id = some p → p < g.size := by
  rintro p same
  cases same
  exact inside

theorem eq_of_get? (same : ∀ i, g.get? i = h.get? i) : g = h := by
  obtain ⟨entities⟩ := g
  exact congrArg Graph.mk (Array.ext_getElem? same)

theorem get?_eq_none_iff : g.get? id = none ↔ g.size ≤ id := Array.getElem?_eq_none_iff

@[simp] theorem size_modify (g : Graph) (id : EntityId) (change : Entity → Entity) :
    (g.modify id change).size = g.size := Array.size_modify

theorem get?_modify (g : Graph) (id : EntityId) (change : Entity → Entity) (i : EntityId) :
    (g.modify id change).get? i = if id = i then (g.get? i).map change else g.get? i := by
  unfold modify get?
  rw [Array.getElem?_modify]

theorem get?_modify_self (g : Graph) (id : EntityId) (change : Entity → Entity) :
    (g.modify id change).get? id = (g.get? id).map change := by
  rw [get?_modify, if_pos rfl]

theorem get?_modify_of_ne (g : Graph) {id i : EntityId} (change : Entity → Entity)
    (other : id ≠ i) : (g.modify id change).get? i = g.get? i := by
  rw [get?_modify, if_neg other]

theorem parent?_of_get? (found : g.get? id = some e) : g.parent? id = e.parent := by
  simp [parent?, found]

/-! ## Orderly graphs -/

/-- The entities that name an entity as their parent, in the order of their creation. -/
def childrenOf (g : Graph) (id : EntityId) : List EntityId :=
  (List.range g.size).filter fun child => g.parent? child == some id

structure Orderly (g : Graph) : Prop where
  position : ∀ {id e}, g.get? id = some e → e.id = id
  before : ∀ {id e parent}, g.get? id = some e → e.parent = some parent → parent < id
  children : ∀ {id e}, g.get? id = some e → e.children = g.childrenOf id

theorem mem_childrenOf {child : EntityId} :
    child ∈ g.childrenOf id ↔ child < g.size ∧ g.parent? child = some id := by
  simp [childrenOf]

theorem childrenOf_pairwise (g : Graph) (id : EntityId) : (g.childrenOf id).Pairwise (· < ·) :=
  List.pairwise_lt_range.filter _

theorem orderly_empty : empty.Orderly where
  position found := by simp [get?, empty] at found
  before found := by simp [get?, empty] at found
  children found := by simp [get?, empty] at found

/-- Whether a graph is orderly depends on the links only. -/
theorem Orderly.of_links (orderly : g.Orderly)
    (same : ∀ i, (h.get? i).map Entity.links = (g.get? i).map Entity.links) : h.Orderly := by
  have parents : ∀ i, h.parent? i = g.parent? i := by
    intro i
    have own := congrArg (Option.bind · fun links => links.2.1) (same i)
    simpa [parent?, Option.bind_map, Function.comp_def, Entity.links] using own
  have size : h.size = g.size := by
    apply Nat.le_antisymm
    · have missing := same g.size
      rw [get?_eq_none_iff.mpr (Nat.le_refl g.size)] at missing
      simpa [get?_eq_none_iff] using missing
    · have missing := same h.size
      rw [get?_eq_none_iff.mpr (Nat.le_refl h.size)] at missing
      exact get?_eq_none_iff.mp (Option.map_eq_none_iff.mp missing.symm)
  have links : ∀ {i e}, h.get? i = some e → ∃ old, g.get? i = some old ∧ old.links = e.links := by
    intro i e found
    have own := same i
    rw [found] at own
    exact Option.map_eq_some_iff.mp own.symm
  refine ⟨?_, ?_, ?_⟩
  · intro i e found
    obtain ⟨old, there, equal⟩ := links found
    have ids : old.id = e.id := congrArg (·.1) equal
    rw [← ids, orderly.position there]
  · intro i e parent found below
    obtain ⟨old, there, equal⟩ := links found
    have above : old.parent = e.parent := congrArg (·.2.1) equal
    exact orderly.before there (above.trans below)
  · intro i e found
    obtain ⟨old, there, equal⟩ := links found
    have lists : old.children = e.children := congrArg (·.2.2) equal
    rw [← lists, orderly.children there]
    simp only [childrenOf, size, parents]

theorem Orderly.modify (orderly : g.Orderly) (id : EntityId) {change : Entity → Entity}
    (links : ∀ e, (change e).links = e.links) : (g.modify id change).Orderly := by
  apply orderly.of_links
  intro i
  rw [get?_modify]
  split
  · rw [Option.map_map]
    exact congrArg (Option.map · (g.get? i)) (funext links)
  · rfl

/-! ## New entities -/

theorem ancestorsWithin_lt (orderly : g.Orderly) (bound : Nat) (id : EntityId) :
    ∀ ancestor ∈ g.ancestorsWithin bound id, ancestor < id := by
  induction bound generalizing id with
  | zero => simp [ancestorsWithin]
  | succ bound ih =>
      intro ancestor member
      unfold ancestorsWithin at member
      cases found : g.get? id with
      | none => simp [parent?, found] at member
      | some e =>
          rw [parent?_of_get? found] at member
          cases above : e.parent with
          | none => simp [above] at member
          | some parent =>
              have below := orderly.before found above
              simp only [above, List.mem_cons] at member
              rcases member with rfl | further
              · exact below
              · exact Nat.lt_trans (ih parent ancestor further) below

theorem spawn_id (g : Graph) (name : String) (parent : Option EntityId) :
    (g.spawn name parent).2 = g.size := by
  unfold spawn
  cases parent <;> rfl

/-- The graph with one more entity that has no links yet. -/
def push (g : Graph) (e : Entity) : Graph := ⟨g.entities.push e⟩

@[simp] theorem size_push (g : Graph) (e : Entity) : (g.push e).size = g.size + 1 :=
  Array.size_push ..

theorem get?_push (g : Graph) (e : Entity) (i : EntityId) :
    (g.push e).get? i = if i = g.size then some e else g.get? i := Array.getElem?_push

/-- A graph stays orderly when an entity is added behind all others as the last child of its
parent. -/
theorem Orderly.grow (orderly : g.Orderly) {parent : Option EntityId}
    (valid : ∀ p, parent = some p → p < g.size) (size : h.size = g.size + 1)
    (newest : (h.get? g.size).map Entity.links = some (g.size, parent, []))
    (others : ∀ i, i ≠ g.size → (h.get? i).map Entity.links = (g.get? i).map fun e =>
      (e.id, e.parent, if parent = some i then e.children ++ [g.size] else e.children)) :
    h.Orderly := by
  obtain ⟨fresh, made, fields⟩ := Option.map_eq_some_iff.mp newest
  have freshId : fresh.id = g.size := congrArg (·.1) fields
  have freshParent : fresh.parent = parent := congrArg (·.2.1) fields
  have freshChildren : fresh.children = [] := congrArg (·.2.2) fields
  have old : ∀ {i e}, i ≠ g.size → h.get? i = some e → ∃ before, g.get? i = some before ∧
      e.id = before.id ∧ e.parent = before.parent ∧
        e.children = if parent = some i then before.children ++ [g.size] else before.children := by
    intro i e other found
    have own := others i other
    rw [found] at own
    obtain ⟨before, there, equal⟩ := Option.map_eq_some_iff.mp own.symm
    exact ⟨before, there, congrArg (·.1) equal.symm, congrArg (·.2.1) equal.symm,
      congrArg (·.2.2) equal.symm⟩
  have parents : ∀ i, i ≠ g.size → h.parent? i = g.parent? i := by
    intro i other
    have own := congrArg (Option.bind · fun links => links.2.1) (others i other)
    simpa [parent?, Option.bind_map, Function.comp_def, Entity.links] using own
  -- the new entity comes last among all entities, and so among the children of its parent
  have lists : ∀ i, h.childrenOf i =
      g.childrenOf i ++ if parent = some i then [g.size] else [] := by
    intro i
    have front : (List.range g.size).filter (fun child => h.parent? child == some i) =
        g.childrenOf i := by
      apply List.filter_congr
      intro child member
      rw [parents child (Nat.ne_of_lt (List.mem_range.mp member))]
    have back : [g.size].filter (fun child => h.parent? child == some i) =
        if parent = some i then [g.size] else [] := by
      have above : h.parent? g.size = parent := (parent?_of_get? made).trans freshParent
      by_cases own : parent = some i
      · simp [above, own]
      · simp [above, own]
    rw [childrenOf, size, List.range_succ, List.filter_append, front, back]
  refine ⟨?_, ?_, ?_⟩
  · intro i e found
    by_cases same : i = g.size
    · subst same
      rw [made] at found
      cases found
      exact freshId
    · obtain ⟨before, there, ids, -, -⟩ := old same found
      rw [ids, orderly.position there]
  · intro i e above found below
    by_cases same : i = g.size
    · subst same
      rw [made] at found
      cases found
      exact valid above (freshParent.symm.trans below)
    · obtain ⟨before, there, -, ups, -⟩ := old same found
      exact orderly.before there (ups.symm.trans below)
  · intro i e found
    rw [lists i]
    by_cases same : i = g.size
    · subst same
      rw [made] at found
      cases found
      have apart : parent ≠ some g.size := fun own => Nat.lt_irrefl _ (valid _ own)
      have none : g.childrenOf g.size = [] := by
        rw [List.eq_nil_iff_forall_not_mem]
        intro child member
        obtain ⟨inside, below⟩ := mem_childrenOf.mp member
        obtain ⟨e, there⟩ := exists_of_lt inside
        rw [parent?_of_get? there] at below
        exact Nat.lt_asymm inside (orderly.before there below)
      rw [freshChildren, none, if_neg apart, List.append_nil]
    · obtain ⟨before, there, -, -, downs⟩ := old same found
      rw [downs, orderly.children there]
      split
      · rfl
      · exact (List.append_nil _).symm

theorem orderly_push (orderly : g.Orderly) (name : String) :
    (g.push (Entity.blank g.size name)).Orderly := by
  refine @Orderly.grow g _ orderly none (by simp) (size_push g _) ?_ ?_
  · rw [get?_push, if_pos rfl]
    rfl
  · intro i other
    rw [get?_push, if_neg other]
    rfl

/-- A new entity is put below its parent, which exists. -/
theorem get?_spawn (orderly : g.Orderly) (name : String) {parent : Option EntityId}
    (valid : ∀ p, parent = some p → p < g.size) (i : EntityId) :
    (g.spawn name parent).1.get? i =
      if i = g.size then some { Entity.blank g.size name with parent }
      else (g.get? i).map fun e =>
        if parent = some i then { e with children := e.children ++ [g.size] } else e := by
  cases parent with
  | none =>
      show (g.push (Entity.blank g.size name)).get? i = _
      rw [get?_push]
      simp
      rfl
  | some p =>
      have below : p < g.size := valid p rfl
      have grown := orderly_push orderly name
      have allowed : (g.push (Entity.blank g.size name)).setParent? g.size p =
          some ((g.push (Entity.blank g.size name)).link g.size p) := by
        have apart : g.size ≠ p := Nat.ne_of_gt below
        have free : (g.push (Entity.blank g.size name)).isAncestor g.size p = false := by
          rw [isAncestor, Bool.eq_false_iff]
          intro contains
          have earlier := ancestorsWithin_lt grown _ p g.size (List.contains_iff_mem.mp contains)
          exact Nat.lt_asymm below earlier
        have there : ((g.push (Entity.blank g.size name)).get? p).isNone = false := by
          rw [get?_push, if_neg apart.symm]
          obtain ⟨e, found⟩ := exists_of_lt below
          rw [found]
          rfl
        have made : ((g.push (Entity.blank g.size name)).get? g.size).isNone = false := by
          rw [get?_push, if_pos rfl]
          rfl
        simp [setParent?, apart, free, there, made]
      have alone : (g.push (Entity.blank g.size name)).parent? g.size = none := by
        simp [parent?, get?_push, Entity.blank]
      show (((g.push (Entity.blank g.size name)).setParent? g.size p).getD _).get? i = _
      rw [allowed, Option.getD_some, link, alone]
      simp only [get?_modify, get?_push]
      by_cases new : i = g.size
      · subst new
        have apart : p ≠ g.size := Nat.ne_of_lt below
        simp [apart]
      · have other : g.size ≠ i := fun same => new same.symm
        by_cases owner : p = i
        · simp [owner, new, other]
        · simp [owner, new, other]

@[simp] theorem size_link (g : Graph) (child parent : EntityId) :
    (g.link child parent).size = g.size := by
  unfold link
  cases g.parent? child <;> simp

@[simp] theorem size_spawn (g : Graph) (name : String) (parent : Option EntityId) :
    (g.spawn name parent).1.size = g.size + 1 := by
  unfold spawn
  cases parent with
  | none => exact size_push g _
  | some p =>
      dsimp only
      unfold setParent?
      split
      · exact size_push g _
      · exact (size_link _ g.size p).trans (size_push g _)

theorem lt_size_spawn (g : Graph) (name : String) (parent : Option EntityId) :
    g.size < (g.spawn name parent).1.size := by
  rw [size_spawn]
  exact Nat.lt_succ_self _

/-- A graph with a new entity below its parent and with its content. -/
def add (g : Graph) (name : String) (parent : Option EntityId) (fill : Entity → Entity) : Graph :=
  (g.spawn name parent).1.modify g.size fill

theorem spawn_eq_add (g : Graph) (name : String) (parent : Option EntityId) :
    (g.spawn name parent).1 = g.add name parent fun e => e := by
  apply eq_of_get?
  intro i
  rw [add, get?_modify]
  split <;> simp

section

variable (orderly : g.Orderly) (name : String) {parent : Option EntityId}
  (valid : ∀ p, parent = some p → p < g.size) {fill : Entity → Entity}

@[simp] theorem size_add (g : Graph) (name : String) (parent : Option EntityId)
    (fill : Entity → Entity) : (g.add name parent fill).size = g.size + 1 := by
  rw [add, size_modify, size_spawn]

theorem lt_size_add (g : Graph) (name : String) (parent : Option EntityId)
    (fill : Entity → Entity) : g.size < (g.add name parent fill).size := by
  rw [size_add]
  exact Nat.lt_succ_self _

include orderly valid

theorem get?_add_new (fill : Entity → Entity) :
    (g.add name parent fill).get? g.size =
      some (fill { Entity.blank g.size name with parent }) := by
  rw [add, get?_modify_self, get?_spawn orderly name valid, if_pos rfl]
  rfl

theorem get?_add_old (fill : Entity → Entity) {i : EntityId} (old : i ≠ g.size) :
    (g.add name parent fill).get? i = (g.get? i).map fun e =>
      if parent = some i then { e with children := e.children ++ [g.size] } else e := by
  rw [add, get?_modify_of_ne _ _ old.symm, get?_spawn orderly name valid, if_neg old]

theorem Orderly.add (links : ∀ e, (fill e).links = e.links) :
    (g.add name parent fill).Orderly := by
  apply orderly.grow valid (size_add g name parent fill)
  · rw [get?_add_new orderly name valid, Option.map_some, links]
    rfl
  · intro i old
    rw [get?_add_old orderly name valid fill old, Option.map_map]
    congr 1
    funext e
    dsimp only [Function.comp]
    split <;> rfl

end

/-! ## Finding -/

theorem lt_of_findId? (orderly : g.Orderly) {holds : Entity → Bool}
    (found : g.findId? holds = some id) : id < g.size := by
  unfold findId? at found
  obtain ⟨e, first, same⟩ := Option.map_eq_some_iff.mp found
  obtain ⟨i, inside, at_⟩ := Array.mem_iff_getElem.mp (Array.mem_of_find?_eq_some first)
  have there : g.get? i = some e := by
    rw [← at_]
    exact Array.getElem?_eq_getElem inside
  rw [← same, orderly.position there]
  exact inside

theorem lt_of_childWhere? {child : EntityId} {holds : Entity → Bool}
    (found : g.childWhere? id holds = some child) : child < g.size := by
  have here := List.find?_some found
  cases there : g.get? child with
  | none => simp [there] at here
  | some e => exact lt_size there

theorem lt_of_followNames? {last : EntityId} (names : List String) (inside : id < g.size)
    (found : g.followNames? id names = some last) : last < g.size := by
  induction names generalizing id with
  | nil =>
      cases found
      exact inside
  | cons name rest ih =>
      unfold followNames? at found
      split at found
      · cases found
      next child step => exact ih (lt_of_childWhere? step) found

theorem lt_of_descendantNamed? {last : EntityId} {name : String}
    (found : g.descendantNamed? id name = some last) : last < g.size := by
  have here := List.find?_some found
  cases there : g.get? last with
  | none => simp [there] at here
  | some e => exact lt_size there

/-- Whatever way finds an entity, the entity exists. -/
theorem lt_of_findBy? (orderly : g.Orderly) {start : Option EntityId} {key : String}
    (valid : ∀ s, start = some s → s < g.size) (strategy : Strategy)
    (found : g.findBy? start key strategy = some id) : id < g.size := by
  cases strategy with
  | childPath =>
      obtain ⟨first, begun, way⟩ := Option.bind_eq_some_iff.mp found
      unfold followPath? at way
      split at way
      · cases way
      · exact lt_of_followNames? _ (valid first begun) way
  | descendantName =>
      obtain ⟨first, -, way⟩ := Option.bind_eq_some_iff.mp found
      exact lt_of_descendantNamed? way
  | globalName =>
      rcases Option.or_eq_some_iff.mp found with named | ⟨-, given⟩
      · exact lt_of_findId? orderly named
      · exact lt_of_findId? orderly given
  | tag => exact lt_of_findId? orderly found

theorem lt_of_resolve? (orderly : g.Orderly) {start : Option EntityId} {hint : Document.Hint}
    (valid : ∀ s, start = some s → s < g.size) {resolution : Resolution}
    (found : g.resolve? start hint = some resolution) : resolution.entity < g.size := by
  obtain ⟨⟨strategy, raw⟩, -, tried⟩ := List.exists_of_findSome?_eq_some found
  cases raw with
  | none => cases tried
  | some raw =>
      unfold attempt? at tried
      dsimp only at tried
      split at tried
      · cases tried
      · obtain ⟨id, way, rfl⟩ := Option.map_eq_some_iff.mp tried
        exact lt_of_findBy? orderly valid strategy way

end Graph

end GameScenes.Scene
