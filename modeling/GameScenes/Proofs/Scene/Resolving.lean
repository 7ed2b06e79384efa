import GameScenes.Proofs.Scene.Forest
import GameScenes.Proofs.Text.Slashes

/-!
# What a reference finds

What every way of looking finds is said here by the entities of the graph alone (`Graph.Finds`): by
names of children, by pre-order, by the order of creation.  On a forest a hint then leads to what
the first way finds that has a key and finds anything (`Forest.resolve?_first`).
-/

set_option autoImplicit false

namespace GameScenes.Scene

open Document (Hint Reference)

/-- That an element of a list is the first one with a property. -/
def IsFirst {α : Type} (xs : List α) (holds : α → Prop) (x : α) : Prop :=
  ∃ before after, xs = before ++ x :: after ∧ holds x ∧ ∀ y ∈ before, ¬ holds y

theorem isFirst_congr {α : Type} {xs : List α} {holds also : α → Prop}
    (same : ∀ x, holds x ↔ also x) (x : α) : IsFirst xs holds x ↔ IsFirst xs also x := by
  simp only [IsFirst, same]

theorem find?_eq_some_iff_isFirst {α : Type} {xs : List α} {holds : α → Bool} {x : α} :
    xs.find? holds = some x ↔ IsFirst xs (holds · = true) x := by
  rw [List.find?_eq_some_iff_append]
  constructor
  · rintro ⟨here, before, after, rfl, others⟩
    exact ⟨before, after, rfl, here, fun y member => by simpa using others y member⟩
  · rintro ⟨before, after, rfl, here, others⟩
    exact ⟨here, before, after, rfl, fun y member => by simpa using others y member⟩

/-- All ways of looking in the order in which they are tried. -/
def Strategy.inOrder : List Strategy := [.childPath, .descendantName, .globalName, .tag]

/-- The key that a hint has for a way of looking. -/
def hintKey? : Hint → Strategy → Option String
  | .text s, _ => some s
  | .structured r, .childPath => r.path
  | .structured r, .descendantName => r.childName
  | .structured r, .globalName => r.globalName
  | .structured r, .tag => r.tag

namespace Graph

variable {g : Graph} {id : EntityId}

/-! ## What is to be found -/

def Has (g : Graph) (holds : Entity → Prop) (id : EntityId) : Prop :=
  ∃ e, g.get? id = some e ∧ holds e

/-- That an entity is the first one made that has a property. -/
def IsEarliest (g : Graph) (holds : Entity → Prop) (id : EntityId) : Prop :=
  g.Has holds id ∧ ∀ earlier < id, ¬ g.Has holds earlier

/-- That names lead from an entity to another, at each of them to the first child of that name. -/
inductive Follows (g : Graph) : EntityId → List String → EntityId → Prop
  | here {id : EntityId} : Follows g id [] id
  | step {id child last : EntityId} {name : String} {rest : List String} :
      IsFirst (g.children id) (g.Has (·.name = name)) child → Follows g child rest last →
        Follows g id (name :: rest) last

/-- That a path consists of names and of slashes between, before and behind them. -/
def PathNames (path : String) (names : List String) : Prop :=
  ∃ parts : List (List Char), parts ≠ [] ∧ (∀ part ∈ parts, '/' ∉ part) ∧
    List.intercalate ['/'] parts = path.toList ∧
      names = (parts.filter (· ≠ [])).map String.ofList

/-- What a way of looking finds with a key, from an entity on if there is one. -/
def Finds (g : Graph) (context : Option EntityId) (key : String) : Strategy → EntityId → Prop
  | .childPath, id =>
      ∃ start names, context = some start ∧ PathNames key names ∧ names ≠ [] ∧
        g.Follows start names id
  | .descendantName, id =>
      ∃ start order, context = some start ∧ g.Preorder (g.children start) order ∧
        IsFirst order (g.Has fun e => Text.lower e.name = Text.lower key) id
  | .globalName, id =>
      g.IsEarliest (·.name = key) id ∨
        (∀ other, ¬ g.Has (·.name = key) other) ∧ g.IsEarliest (·.sourceId = some key) id
  | .tag, id => g.IsEarliest (·.tag = key) id

/-- What a way of looking finds with its key of a hint, which must not be blank. -/
def Succeeds (g : Graph) (context : Option EntityId) (hint : Hint) (strategy : Strategy)
    (id : EntityId) : Prop :=
  ∃ raw, hintKey? hint strategy = some raw ∧ Text.trim raw ≠ "" ∧
    g.Finds context (Text.trim raw) strategy id

theorem Has.lt_size {holds : Entity → Prop} (has : g.Has holds id) : id < g.size := by
  obtain ⟨e, found, -⟩ := has
  exact Graph.lt_size found

theorem Follows.lt_size {last : EntityId} {names : List String} (way : g.Follows id names last)
    (some_ : names ≠ []) : last < g.size := by
  induction way with
  | here => exact absurd rfl some_
  | @step id child last name rest first further ih =>
      cases rest with
      | cons next others => exact ih (List.cons_ne_nil _ _)
      | nil =>
          cases further
          obtain ⟨-, -, -, has, -⟩ := first
          exact has.lt_size

theorem Finds.lt_size {context : Option EntityId} {key : String} {strategy : Strategy}
    (finds : g.Finds context key strategy id) : id < g.size := by
  cases strategy with
  | childPath =>
      obtain ⟨start, names, -, -, some_, way⟩ := finds
      exact way.lt_size some_
  | descendantName =>
      obtain ⟨start, order, -, -, -, -, -, has, -⟩ := finds
      exact has.lt_size
  | globalName =>
      rcases finds with named | ⟨-, given⟩
      · exact named.1.lt_size
      · exact given.1.lt_size
  | tag => exact finds.1.lt_size

/-! ## Every way of looking finds what it should -/

theorem has_iff {holds : Entity → Bool} :
    g.Has (holds · = true) id ↔
      (match g.get? id with
        | some e => holds e
        | none => false) = true := by
  unfold Has
  cases g.get? id <;> simp

theorem childWhere?_eq_some_iff {holds : Entity → Bool} {child : EntityId} :
    g.childWhere? id holds = some child ↔
      IsFirst (g.children id) (g.Has (holds · = true)) child := by
  unfold childWhere?
  rw [find?_eq_some_iff_isFirst]
  exact isFirst_congr (fun _ => has_iff.symm) child

theorem followNames?_eq_some_iff {last : EntityId} {names : List String} :
    g.followNames? id names = some last ↔ g.Follows id names last := by
  induction names generalizing id with
  | nil =>
      constructor
      · rintro ⟨⟩
        exact .here
      · rintro ⟨⟩
        rfl
  | cons name rest ih =>
      have first : ∀ child, g.childWhere? id (·.name == name) = some child ↔
          IsFirst (g.children id) (g.Has (·.name = name)) child := by
        intro child
        rw [childWhere?_eq_some_iff]
        simp only [beq_iff_eq]
      rw [followNames?]
      constructor
      · intro found
        split at found
        · cases found
        next child step => exact .step ((first child).mp step) (ih.mp found)
      · rintro (_ | ⟨step, further⟩)
        rw [(first _).mpr step]
        exact ih.mpr further

theorem pathSegments_eq_iff {path : String} {names : List String} :
    pathSegments path = names ↔ PathNames path names := by
  have named : ∀ parts : List (List Char), (parts.map String.ofList).filter (· ≠ "") =
      (parts.filter (· ≠ [])).map String.ofList := by
    intro parts
    rw [List.filter_map]
    congr 2
    funext part
    simp [Function.comp, ← String.toList_inj]
  unfold pathSegments Text.pathParts PathNames
  rw [named]
  constructor
  · rintro rfl
    obtain ⟨filled, whole, spelled⟩ := (Text.splitSlashes_eq_iff path.toList).mp rfl
    exact ⟨_, filled, whole, spelled, rfl⟩
  · rintro ⟨parts, filled, whole, spelled, rfl⟩
    rw [(Text.splitSlashes_eq_iff path.toList).mpr ⟨filled, whole, spelled⟩]

theorem followPath?_eq_some_iff {path : String} {last : EntityId} :
    g.followPath? id path = some last ↔
      ∃ names, PathNames path names ∧ names ≠ [] ∧ g.Follows id names last := by
  simp only [← pathSegments_eq_iff, ← followNames?_eq_some_iff, exists_eq_left']
  unfold followPath?
  cases pathSegments path <;> simp

theorem descendantNamed?_eq_some_iff (forest : g.Forest) {name : String} {found : EntityId} :
    g.descendantNamed? id name = some found ↔
      ∃ order, g.Preorder (g.children id) order ∧
        IsFirst order (g.Has fun e => Text.lower e.name = Text.lower name) found := by
  have same : ∀ e : Entity,
      Text.sameLetters e.name name = true ↔ Text.lower e.name = Text.lower name := by
    intro e
    simp [Text.sameLetters, Text.lower, String.ofList_inj]
  have listed := forest.preorder_descendants id
  have only : ∀ order, g.Preorder (g.children id) order ↔ g.descendants id = order :=
    fun order => ⟨listed.unique, fun own => own ▸ listed⟩
  unfold descendantNamed?
  simp only [find?_eq_some_iff_isFirst, only, exists_eq_left', ← same]
  exact isFirst_congr (fun _ => has_iff.symm) found

theorem findId?_eq_some_iff (forest : g.Forest) {holds : Entity → Bool} :
    g.findId? holds = some id ↔ g.IsEarliest (holds · = true) id := by
  unfold findId? IsEarliest Has
  rw [Option.map_eq_some_iff]
  simp only [Array.find?_eq_some_iff_getElem]
  constructor
  · rintro ⟨e, ⟨here, i, inside, at_, before⟩, rfl⟩
    have there : g.get? i = some e := by
      rw [← at_]
      exact Array.getElem?_eq_getElem inside
    rw [forest.position there]
    refine ⟨⟨e, there, here⟩, ?_⟩
    rintro earlier less ⟨other, found, also⟩
    have refused := before earlier less
    obtain ⟨within, own⟩ := Array.getElem?_eq_some_iff.mp found
    rw [own, also] at refused
    cases refused
  · rintro ⟨⟨e, there, here⟩, before⟩
    obtain ⟨inside, at_⟩ := Array.getElem?_eq_some_iff.mp there
    refine ⟨e, ⟨here, id, inside, at_, ?_⟩, forest.position there⟩
    intro j less
    have refused := before j less
    have found : g.get? j = some g.entities[j] :=
      Array.getElem?_eq_getElem (Nat.lt_trans less inside)
    simpa using fun holds => refused ⟨_, found, holds⟩

theorem findId?_eq_none_iff {holds : Entity → Bool} :
    g.findId? holds = none ↔ ∀ id, ¬ g.Has (holds · = true) id := by
  unfold findId? Has
  rw [Option.map_eq_none_iff, Array.find?_eq_none]
  constructor
  · rintro refused id ⟨e, found, here⟩
    exact refused e (Array.mem_of_getElem? found) here
  · intro refused e member here
    obtain ⟨i, found⟩ := Array.getElem?_of_mem member
    exact refused i ⟨e, found, here⟩

theorem findBy?_eq_some_iff (forest : g.Forest) {context : Option EntityId} {key : String}
    (strategy : Strategy) :
    g.findBy? context key strategy = some id ↔ g.Finds context key strategy id := by
  cases strategy with
  | childPath =>
      unfold findBy? Finds
      simp only [Option.bind_eq_some_iff, followPath?_eq_some_iff, exists_and_left]
  | descendantName =>
      unfold findBy? Finds
      simp only [Option.bind_eq_some_iff, descendantNamed?_eq_some_iff forest, exists_and_left]
  | globalName =>
      unfold findBy? Finds findByName? findBySourceId?
      simp only [Option.or_eq_some_iff, findId?_eq_some_iff forest, findId?_eq_none_iff,
        beq_iff_eq]
  | tag =>
      unfold findBy? Finds findByTag?
      simp only [findId?_eq_some_iff forest, beq_iff_eq]

/-! ## The first way that succeeds -/

theorem resolve?_eq_findSome? (context : Option EntityId) (hint : Hint) :
    g.resolve? context hint =
      Strategy.inOrder.findSome? fun strategy =>
        g.attempt? context (strategy, hintKey? hint strategy) := by
  cases hint <;> rfl

theorem attempt?_eq_some_iff (forest : g.Forest) {context : Option EntityId} {hint : Hint}
    {strategy : Strategy} {resolution : Resolution} :
    g.attempt? context (strategy, hintKey? hint strategy) = some resolution ↔
      resolution.strategy = strategy ∧ g.Succeeds context hint strategy resolution.entity := by
  obtain ⟨entity, way⟩ := resolution
  unfold Succeeds
  cases hintKey? hint strategy with
  | none => simp [attempt?]
  | some raw =>
      unfold attempt?
      dsimp only
      split
      next blank => simp [blank]
      next filled =>
          simp only [Option.map_eq_some_iff, Resolution.mk.injEq, findBy?_eq_some_iff forest]
          constructor
          · rintro ⟨id, found, rfl, rfl⟩
            exact ⟨rfl, raw, rfl, filled, found⟩
          · rintro ⟨rfl, _, ⟨⟩, -, found⟩
            exact ⟨entity, found, rfl, rfl⟩

theorem attempt?_eq_none_iff (forest : g.Forest) {context : Option EntityId} {hint : Hint}
    {strategy : Strategy} :
    g.attempt? context (strategy, hintKey? hint strategy) = none ↔
      ¬ ∃ id, g.Succeeds context hint strategy id := by
  rw [Option.eq_none_iff_forall_ne_some]
  constructor
  · rintro refused ⟨id, succeeds⟩
    exact refused ⟨id, strategy⟩ ((attempt?_eq_some_iff forest).mpr ⟨rfl, succeeds⟩)
  · intro refused resolution tried
    exact refused ⟨_, ((attempt?_eq_some_iff forest).mp tried).2⟩

theorem resolve?_eq_some_iff (forest : g.Forest) {context : Option EntityId} {hint : Hint}
    {resolution : Resolution} :
    g.resolve? context hint = some resolution ↔
      IsFirst Strategy.inOrder (fun strategy => ∃ id, g.Succeeds context hint strategy id)
          resolution.strategy ∧
        g.Succeeds context hint resolution.strategy resolution.entity := by
  rw [resolve?_eq_findSome?, List.findSome?_eq_some_iff]
  constructor
  · rintro ⟨before, strategy, after, order, tried, refused⟩
    obtain ⟨rfl, succeeds⟩ := (attempt?_eq_some_iff forest).mp tried
    exact ⟨⟨before, after, order, ⟨_, succeeds⟩, fun earlier member =>
      (attempt?_eq_none_iff forest).mp (refused earlier member)⟩, succeeds⟩
  · rintro ⟨⟨before, after, order, -, refused⟩, succeeds⟩
    exact ⟨before, resolution.strategy, after, order,
      (attempt?_eq_some_iff forest).mpr ⟨rfl, succeeds⟩, fun earlier member =>
        (attempt?_eq_none_iff forest).mpr (refused earlier member)⟩

theorem resolve?_eq_none_iff (forest : g.Forest) {context : Option EntityId} {hint : Hint} :
    g.resolve? context hint = none ↔ ∀ strategy id, ¬ g.Succeeds context hint strategy id := by
  have every : ∀ strategy, strategy ∈ Strategy.inOrder := by
    intro strategy
    cases strategy <;> decide
  simp only [resolve?_eq_findSome?, List.findSome?_eq_none_iff, attempt?_eq_none_iff forest, every,
    forall_const, not_exists]

/-- On a forest a hint leads to the entity that the first way finds which has a key that is not
blank and finds anything, and to none when no way does.  The entity exists, and a text stands for
itself as the key of every way. -/
theorem Forest.resolve?_first (forest : g.Forest) (context : Option EntityId) (hint : Hint) :
    (∀ resolution, g.resolve? context hint = some resolution ↔
      IsFirst Strategy.inOrder (fun strategy => ∃ id, g.Succeeds context hint strategy id)
          resolution.strategy ∧
        g.Succeeds context hint resolution.strategy resolution.entity) ∧
    (g.resolve? context hint = none ↔ ∀ strategy id, ¬ g.Succeeds context hint strategy id) ∧
    (∀ resolution, g.resolve? context hint = some resolution → resolution.entity < g.size) ∧
    ∀ name, hint = .text name → g.resolve? context hint =
      g.resolve? context (.structured ⟨some name, some name, some name, some name⟩) := by
  refine ⟨fun _ => resolve?_eq_some_iff forest, resolve?_eq_none_iff forest, ?_, ?_⟩
  · intro resolution found
    obtain ⟨-, raw, -, -, finds⟩ := (resolve?_eq_some_iff forest).mp found
    exact finds.lt_size
  · rintro name rfl
    rfl

/-! Two entities named `Feet`: the one made first stands below a player. -/

def feetScene : Graph :=
  let player := (empty.spawn "Player" none).1
  let body := (player.spawn "Body" (some 0)).1
  let feet := (body.spawn "Feet" (some 1)).1
  (feet.spawn "Feet" none).1

theorem feetScene_forest : feetScene.Forest := by
  have player := orderly_empty.spawn "Player" none (by simp)
  have body := player.spawn "Body" (some 0) (lt_of_some (by simp))
  have feet := body.spawn "Feet" (some 1) (lt_of_some (by simp))
  exact (feet.spawn "Feet" none (by simp)).forest

/-- From the player on the first `Feet` is found as a descendant, since no child has the name. -/
theorem resolve?_feet :
    feetScene.Forest ∧
      IsFirst Strategy.inOrder
          (fun strategy => ∃ id, feetScene.Succeeds (some 0) (.text " feet") strategy id)
          .descendantName ∧
        feetScene.Succeeds (some 0) (.text " feet") .descendantName 2 :=
  ⟨feetScene_forest,
    ((feetScene_forest.resolve?_first (some 0) (.text " feet")).1 ⟨2, .descendantName⟩).mp
      (by decide +kernel)⟩

end Graph

end GameScenes.Scene
