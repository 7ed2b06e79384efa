import GameScenes.Proofs.Scene.Forest

/-!
# Moving entities below others

Entities are made, moved below others and shifted in any order, also with identifiers that no entity
has.  Whatever is asked for, the links make the graph a forest (`Forest.apply`): a move that would
close a cycle is refused, and any other move changes one link.  Walks along the links are followed
here without a bound; on a forest each of them ends, and with what the bounded walk gives
(`forest_of_changes`).
-/

set_option autoImplicit false

namespace GameScenes.Scene.Graph

open Relation (ReflTransGen TransGen)

variable {g h : Graph} {id child parent : EntityId} {depth : Nat}

/-! ## Walks without a bound -/

/-- The walk from an entity along parents to the root. -/
inductive Climbs (g : Graph) : Option EntityId → List EntityId → Prop
  | ended : Climbs g none []
  | step {id : EntityId} {line : List EntityId} :
      Climbs g (g.parent? id) line → Climbs g (some id) (id :: line)

/-- The walk over all that stands below a stack of entities; the children of an entity are put on the
stack when it is taken from there. -/
inductive Unstacks (g : Graph) : List EntityId → List EntityId → Prop
  | ended : Unstacks g [] []
  | step {id : EntityId} {stack order : List EntityId} :
      Unstacks g (g.children id ++ stack) order → Unstacks g (id :: stack) (id :: order)

/-- The pose of an entity in the space of its parent. -/
def localPose (g : Graph) (id : EntityId) : Pose :=
  match g.get? id with
  | some e => e.transform.pose
  | none => Pose.identity

/-- The poses of a line of entities put together, of which the last one stands at the root. -/
def composed (g : Graph) (line : List EntityId) : Pose :=
  line.foldr (fun id base => base.andThen (g.localPose id)) Pose.identity

/-- That all walks from an entity end, with what their bounded forms give. -/
structure WalksEnd (g : Graph) (id : EntityId) : Prop where
  ancestors : g.Climbs (g.parent? id) (g.ancestors id)
  isAncestor : ∀ ancestor, g.isAncestor ancestor id = true ↔
    TransGen (fun parent child => g.parent? child = some parent) ancestor id
  descendants : g.Unstacks (g.children id) (g.descendants id)
  worldPose : ∃ line, g.Climbs (some id) line ∧ g.worldPose id = g.composed line

theorem Climbs.mem_iff {cursor : Option EntityId} {line : List EntityId}
    (walk : g.Climbs cursor line) {x : EntityId} :
    x ∈ line ↔ ∃ first, cursor = some first ∧
      ReflTransGen (fun parent child => g.parent? child = some parent) x first := by
  induction walk with
  | ended => simp
  | @step id line _ ih =>
      rw [List.mem_cons, ih]
      simp only [Option.some.injEq, exists_eq_left']
      rw [ReflTransGen.cases_tail_iff]
      constructor
      · rintro (rfl | ⟨first, above, further⟩)
        · exact .inl rfl
        · exact .inr ⟨first, further, above⟩
      · rintro (rfl | ⟨first, further, above⟩)
        · exact .inl rfl
        · exact .inr ⟨first, above, further⟩

theorem Preorder.unstacks {ids order stack out : List EntityId} (listed : g.Preorder ids order)
    (later : g.Unstacks stack out) : g.Unstacks (ids ++ stack) (order ++ out) := by
  induction listed generalizing stack out with
  | nil => exact later
  | @cons id rest below after _ _ inner outer =>
      have walked := inner (outer later)
      rw [List.cons_append, List.cons_append, List.append_assoc]
      exact .step walked

theorem climbs_ancestorsWithin (deep : g.HasDepth id depth) {bound : Nat}
    (enough : depth ≤ bound) : g.Climbs (g.parent? id) (g.ancestorsWithin bound id) := by
  induction deep generalizing bound with
  | @root id top =>
      rw [top]
      cases bound with
      | zero => exact .ended
      | succ bound =>
          rw [ancestorsWithin, top]
          exact .ended
  | @child child parent depth above _ ih =>
      obtain ⟨bound, rfl⟩ := Nat.exists_eq_add_of_le' (Nat.le_trans (Nat.le_add_left 1 depth) enough)
      rw [ancestorsWithin, above]
      exact .step (ih (Nat.le_of_succ_le_succ enough))

theorem worldPoseWithin_of_climbs {line : List EntityId} (walk : g.Climbs (some id) line)
    (inside : ∀ x ∈ line, x < g.size) {bound : Nat} (enough : line.length ≤ bound) :
    g.worldPoseWithin bound id = g.composed line := by
  induction line generalizing id bound with
  | nil => cases walk
  | cons first rest ih =>
      cases walk with
      | step above =>
          obtain ⟨bound, rfl⟩ :=
            Nat.exists_eq_add_of_le' (Nat.le_trans (Nat.le_add_left 1 rest.length) enough)
          obtain ⟨e, found⟩ := exists_of_lt (inside first (List.mem_cons_self ..))
          have pose : g.localPose first = e.transform.pose := by
            rw [localPose, found]
          rw [parent?_of_get? found] at above
          show _ = (g.composed rest).andThen (g.localPose first)
          simp only [worldPoseWithin, found, pose]
          cases up : e.parent with
          | none =>
              rw [up] at above
              cases above
              rfl
          | some parent =>
              rw [up] at above
              have below := ih above (fun x member => inside x (List.mem_cons_of_mem _ member))
                (Nat.le_of_succ_le_succ enough)
              exact congrArg (Pose.andThen · e.transform.pose) below

namespace Forest

theorem depth_le (forest : g.Forest) (deep : g.HasDepth id depth) : depth ≤ g.size := by
  cases deep with
  | root _ => exact Nat.zero_le _
  | child above further =>
      exact Nat.le_of_lt (forest.depth_lt (.child above further) (lt_of_parent? above))

theorem climbs_ancestors (forest : g.Forest) (id : EntityId) :
    g.Climbs (g.parent? id) (g.ancestors id) := by
  obtain ⟨depth, deep⟩ := forest.rooted id
  exact climbs_ancestorsWithin deep (forest.depth_le deep)

theorem isAncestor_iff (forest : g.Forest) {ancestor : EntityId} :
    g.isAncestor ancestor id = true ↔
      TransGen (fun parent child => g.parent? child = some parent) ancestor id := by
  rw [isAncestor, List.contains_iff_mem, (forest.climbs_ancestors id).mem_iff, TransGen.tail'_iff]
  constructor
  · rintro ⟨first, above, further⟩
    exact ⟨first, further, above⟩
  · rintro ⟨first, further, above⟩
    exact ⟨first, above, further⟩

theorem length_ancestors_lt (forest : g.Forest) (inside : id < g.size) :
    (g.ancestors id).length < g.size := by
  obtain ⟨depth, deep⟩ := forest.rooted id
  have walk := forest.climbs_ancestors id
  have same : (g.ancestors id).length = depth := by
    generalize g.ancestors id = line at walk
    clear inside
    induction deep generalizing line with
    | root top =>
        rw [top] at walk
        cases walk
        rfl
    | child above _ ih =>
        rw [above] at walk
        cases walk with
        | step further => rw [List.length_cons, ih _ further]
  rw [same]
  exact forest.depth_lt deep inside

theorem lt_of_mem_line (forest : g.Forest) (inside : id < g.size) :
    ∀ x ∈ id :: g.ancestors id, x < g.size := by
  intro x member
  rcases List.mem_cons.mp member with rfl | above
  · exact inside
  · -- an ancestor has a child, so that it exists
    obtain ⟨first, up, way⟩ := (forest.climbs_ancestors id).mem_iff.mp above
    rcases ReflTransGen.cases_head_iff.mp way with rfl | ⟨next, linked, -⟩
    · exact forest.parent_lt up
    · exact forest.parent_lt linked

theorem walksEnd (forest : g.Forest) (inside : id < g.size) : g.WalksEnd id where
  ancestors := forest.climbs_ancestors id
  isAncestor _ := forest.isAncestor_iff
  descendants := by
    have walked := (forest.preorder_descendants id).unstacks .ended
    rwa [List.append_nil, List.append_nil] at walked
  worldPose := by
    have walk : g.Climbs (some id) (id :: g.ancestors id) := .step (forest.climbs_ancestors id)
    exact ⟨_, walk, worldPoseWithin_of_climbs walk (forest.lt_of_mem_line inside)
      (forest.length_ancestors_lt inside)⟩

end Forest

/-! ## Links -/

theorem children_eq (g : Graph) (id : EntityId) :
    g.children id = (g.get? id).elim [] Entity.children := by
  unfold children
  cases g.get? id <;> rfl

theorem HasDepth.congr (parents : ∀ id, h.parent? id = g.parent? id)
    (deep : g.HasDepth id depth) : h.HasDepth id depth := by
  induction deep with
  | root top => exact .root ((parents _).trans top)
  | child above _ ih => exact .child ((parents _).trans above) ih

/-- Whether a graph is a forest depends on the links between its entities only. -/
theorem Forest.congr (forest : g.Forest)
    (position : ∀ {id e}, h.get? id = some e → e.id = id)
    (parents : ∀ id, h.parent? id = g.parent? id)
    (children : ∀ id, h.children id = g.children id) : h.Forest where
  position := position
  linked := by
    intro parent child
    rw [children, parents]
    exact forest.linked
  once id := by
    rw [children]
    exact forest.once id
  rooted id := by
    obtain ⟨depth, deep⟩ := forest.rooted id
    exact ⟨depth, deep.congr parents⟩

theorem parent?_push_blank (g : Graph) (name : String) (i : EntityId) :
    (g.push (Entity.blank g.size name)).parent? i = g.parent? i := by
  rw [parent?, get?_push, parent?]
  split
  · next new =>
      rw [new, get?_eq_none_iff.mpr (Nat.le_refl _)]
      rfl
  · rfl

theorem children_push_blank (g : Graph) (name : String) (i : EntityId) :
    (g.push (Entity.blank g.size name)).children i = g.children i := by
  rw [children_eq, get?_push, children_eq]
  split
  · next new =>
      rw [new, get?_eq_none_iff.mpr (Nat.le_refl _)]
      rfl
  · rfl

theorem get?_link (g : Graph) (child parent i : EntityId) :
    (g.link child parent).get? i = (g.get? i).map fun e =>
      { e with
        parent := if child = i then some parent else e.parent
        children := (if g.parent? child = some i then e.children.filter (· != child)
          else e.children) ++ if parent = i then [child] else [] } := by
  unfold link
  cases found : g.get? i with
  | none =>
      cases g.parent? child <;> simp [get?_modify, found]
  | some e =>
      cases previous : g.parent? child with
      | none =>
          by_cases own : child = i <;> by_cases owner : parent = i <;>
            simp [get?_modify, found, own, owner]
      | some before =>
          by_cases own : child = i <;> by_cases owner : parent = i <;>
            by_cases former : before = i <;>
              simp [get?_modify, found, own, owner, former]

theorem parent?_link (inside : child < g.size) (parent i : EntityId) :
    (g.link child parent).parent? i = if child = i then some parent else g.parent? i := by
  rw [parent?, get?_link]
  by_cases own : child = i
  · obtain ⟨e, found⟩ := exists_of_lt inside
    subst own
    simp [found]
  · rw [if_neg own, parent?, Option.bind_map]
    simp only [own, if_false]
    rfl

/-- An entity that is moved leaves the list of its former parent and comes last in the list of its
new one. -/
theorem Forest.children_link (forest : g.Forest) (there : parent < g.size) (child i : EntityId) :
    (g.link child parent).children i =
      (g.children i).filter (· != child) ++ if parent = i then [child] else [] := by
  rw [children, get?_link, children]
  cases found : g.get? i with
  | none =>
      have other : parent ≠ i := by
        rintro rfl
        exact Nat.not_lt.mpr (get?_eq_none_iff.mp found) there
      simp [other]
  | some e =>
      by_cases former : g.parent? child = some i
      · simp [former]
      · have absent : child ∉ e.children := by
          rw [← children_of_get? found, forest.linked]
          exact former
        have kept : e.children.filter (· != child) = e.children := by
          rw [List.filter_eq_self]
          intro x member
          have apart : x ≠ child := fun same => absent (same ▸ member)
          simpa using apart
        simp [former, kept]

/-! ## Changes -/

/-- What can be asked of a graph. -/
inductive Change where
  | spawn (name : String) (parent : Option EntityId)
  | setParent (child parent : EntityId)
  | translateWorld (id : EntityId) (delta : Vector2)

/-- The graph after a change; a move that is refused changes nothing. -/
def apply (g : Graph) : Change → Graph
  | .spawn name parent => (g.spawn name parent).1
  | .setParent child parent => (g.setParent? child parent).getD g
  | .translateWorld id delta => g.translateWorld id delta

def applyAll (g : Graph) (changes : List Change) : Graph := changes.foldl apply g

/-- Whether an entity may be moved below another. -/
def MayMove (g : Graph) (child parent : EntityId) : Prop :=
  child < g.size ∧ parent < g.size ∧
    ¬ ReflTransGen (fun parent child => g.parent? child = some parent) child parent

namespace Forest

/-- A move is refused when an entity does not exist, or when it would close a cycle. -/
theorem setParent?_eq_none_iff (forest : g.Forest) :
    g.setParent? child parent = none ↔ ¬ g.MayMove child parent := by
  have guard : (decide (child = parent) || g.isAncestor child parent || (g.get? parent).isNone
      || (g.get? child).isNone) = true ↔ ¬ g.MayMove child parent := by
    rw [MayMove, Relation.reflTransGen_iff_eq_or_transGen, ← forest.isAncestor_iff]
    simp only [Bool.or_eq_true, decide_eq_true_eq, Option.isNone_iff_eq_none, get?_eq_none_iff,
      ← Nat.not_lt, eq_comm (a := parent)]
    tauto
  rw [← guard, setParent?]
  split
  · next refused => simp [refused]
  · next allowed => simp [allowed]

theorem setParent?_of_mayMove (forest : g.Forest) (free : g.MayMove child parent) :
    g.setParent? child parent = some (g.link child parent) := by
  have moved : g.setParent? child parent ≠ none := fun refused =>
    forest.setParent?_eq_none_iff.mp refused free
  unfold setParent? at moved ⊢
  split at moved
  · cases moved rfl
  · next allowed => rw [if_neg allowed]

/-- What does not stand below the entity that is moved keeps its place. -/
theorem hasDepth_link (inside : child < g.size) (deep : g.HasDepth id depth)
    (beside : ¬ ReflTransGen (fun parent child => g.parent? child = some parent) child id) :
    (g.link child parent).HasDepth id depth := by
  induction deep with
  | @root id top =>
      have other : child ≠ id := fun same => beside (same ▸ .refl)
      refine .root ?_
      rw [parent?_link inside, if_neg other, top]
  | @child id above depth up _ ih =>
      have other : child ≠ id := fun same => beside (same ▸ .refl)
      refine .child ?_ (ih fun below => beside (below.tail up))
      rw [parent?_link inside, if_neg other, up]

theorem link (forest : g.Forest) (free : g.MayMove child parent) :
    (g.link child parent).Forest := by
  obtain ⟨inside, there, apart⟩ := free
  obtain ⟨depth, deep⟩ := forest.rooted parent
  have moved : (g.link child parent).HasDepth child (depth + 1) := by
    refine .child ?_ (hasDepth_link inside deep apart)
    rw [parent?_link inside, if_pos rfl]
  refine ⟨?_, ?_, ?_, ?_⟩
  · intro i e found
    rw [get?_link] at found
    obtain ⟨old, place, rfl⟩ := Option.map_eq_some_iff.mp found
    have own : old.id = i := forest.position place
    exact own
  · intro owner x
    rw [forest.children_link there, parent?_link inside, List.mem_append, List.mem_filter,
      forest.linked]
    by_cases own : child = x
    · subst own
      by_cases last : parent = owner <;> simp [last]
    · have other : x ≠ child := fun same => own same.symm
      by_cases last : parent = owner <;> simp [own, other, last]
  · intro i
    rw [forest.children_link there]
    have kept : ((g.children i).filter (· != child)).Nodup := (forest.once i).filter _
    split
    · refine kept.append (List.nodup_singleton child) ?_
      intro x left right
      cases List.mem_singleton.mp right
      simp at left
    · rwa [List.append_nil]
  · -- the way to the root either meets the moved entity or is as before
    intro i
    obtain ⟨old, way⟩ := forest.rooted i
    induction way with
    | @root i top =>
        by_cases own : child = i
        · exact own ▸ ⟨_, moved⟩
        · refine ⟨0, .root ?_⟩
          rw [parent?_link inside, if_neg own, top]
    | @child i above old up _ ih =>
        by_cases own : child = i
        · exact own ▸ ⟨_, moved⟩
        · obtain ⟨new, way⟩ := ih
          refine ⟨new + 1, .child ?_ way⟩
          rw [parent?_link inside, if_neg own, up]

theorem setParent (forest : g.Forest) (child parent : EntityId) :
    ((g.setParent? child parent).getD g).Forest := by
  by_cases free : g.MayMove child parent
  · rw [forest.setParent?_of_mayMove free]
    exact forest.link free
  · rw [forest.setParent?_eq_none_iff.mpr free]
    exact forest

theorem push_blank (forest : g.Forest) (name : String) :
    (g.push (Entity.blank g.size name)).Forest := by
  apply forest.congr
  · intro i e found
    rw [get?_push] at found
    split at found
    · next new =>
        cases found
        exact new.symm
    · exact forest.position found
  · exact parent?_push_blank g name
  · exact children_push_blank g name

theorem spawn (forest : g.Forest) (name : String) (parent : Option EntityId) :
    (g.spawn name parent).1.Forest := by
  have grown := forest.push_blank name
  cases parent with
  | none => exact grown
  | some parent => exact grown.setParent g.size parent

theorem modify (forest : g.Forest) (id : EntityId) {change : Entity → Entity}
    (links : ∀ e, (change e).links = e.links) : (g.modify id change).Forest := by
  have same : ∀ i, ((g.modify id change).get? i).map Entity.links =
      (g.get? i).map Entity.links := by
    intro i
    rw [get?_modify]
    split
    · rw [Option.map_map]
      exact congrArg (Option.map · (g.get? i)) (funext links)
    · rfl
  apply forest.congr
  · intro i e found
    have own := same i
    rw [found] at own
    obtain ⟨old, place, equal⟩ := Option.map_eq_some_iff.mp own.symm
    have ids : old.id = e.id := congrArg (·.1) equal
    rw [← ids, forest.position place]
  · intro i
    have own := congrArg (Option.bind · fun links => links.2.1) (same i)
    simpa [parent?, Option.bind_map, Function.comp_def, Entity.links] using own
  · intro i
    have own := congrArg (Option.elim · [] fun links => links.2.2) (same i)
    simpa [children_eq, Option.elim_map, Function.comp_def, Entity.links] using own

theorem apply (forest : g.Forest) : ∀ change, (g.apply change).Forest
  | .spawn name parent => forest.spawn name parent
  | .setParent child parent => forest.setParent child parent
  | .translateWorld id _ => forest.modify id fun _ => rfl

theorem applyAll (forest : g.Forest) (changes : List Change) : (g.applyAll changes).Forest := by
  induction changes generalizing g with
  | nil => exact forest
  | cons change later ih => exact ih (forest.apply change)

end Forest

/-- Whatever is done to a graph, it is a forest on which every walk ends, and only what would not
leave it one is refused. -/
theorem forest_of_changes (changes : List Change) :
    (empty.applyAll changes).Forest ∧
      (∀ id < (empty.applyAll changes).size, (empty.applyAll changes).WalksEnd id) ∧
        ∀ child parent, (empty.applyAll changes).setParent? child parent = none ↔
          ¬ (empty.applyAll changes).MayMove child parent := by
  have forest : (empty.applyAll changes).Forest := orderly_empty.forest.applyAll changes
  refine ⟨forest, ?_, ?_⟩
  · intro id inside
    exact forest.walksEnd inside
  · intro child parent
    exact forest.setParent?_eq_none_iff

/-- An entity cannot be moved below what stands below it, but that can be moved away first. -/
example :
    let family := empty.applyAll
      [.spawn "Root" none, .spawn "Arm" (some 0), .spawn "Hand" (some 1), .spawn "Rest" none]
    (family.setParent? 0 2).isNone ∧
      ((family.applyAll [.setParent 1 3, .setParent 0 2]).descendants 3 = [1, 2, 0]) := by
  decide

end GameScenes.Scene.Graph
