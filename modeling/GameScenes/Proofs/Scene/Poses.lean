import GameScenes.Proofs.Scene.Extending
import GameScenes.Proofs.Scene.Frames
import GameScenes.Proofs.Scene.Reachable

/-!
# Poses in the world

A walk from an entity up to its root collects the poses on the way, the entity's own first, and puts
them together from the last one down (`Ascent`).  Every float of a pose is rounded, so that poses put
together in another order give other floats.  On a forest the walk ends, and it gives exactly what the
recursion gives that places a child in the frame of its parent (`Reachable.worldPose_descends`).
Nothing else than the poses on this way has an influence, in particular no entity beside it.
-/

set_option autoImplicit false

namespace GameScenes.Scene.Graph

variable {g h : Graph} {id : EntityId}

/-! ## The walk up -/

/-- How far a walk has come: the poses of the entities that it met, and the entity that it meets
next. -/
structure Ascent where
  poses : List Pose
  cursor : Option EntityId

namespace Ascent

/-- The walk up from an entity, before its first round. -/
def start (id : EntityId) : Ascent := ⟨[], some id⟩

/-- In one round the entity under the cursor is met, and the cursor goes on to its parent.  A walk
without an entity under its cursor has ended. -/
def round (g : Graph) (walk : Ascent) : Option Ascent :=
  (walk.cursor.bind g.get?).map fun e => ⟨walk.poses ++ [e.transform.pose], e.parent⟩

/-- The walk after some rounds, or when it has ended. -/
def run (g : Graph) : Nat → Ascent → Ascent
  | 0, walk => walk
  | rounds + 1, walk =>
      match walk.round g with
      | none => walk
      | some later => run g rounds later

/-- The poses that a walk met put together, from the last one on. -/
def pose (walk : Ascent) : Pose := walk.poses.reverse.foldl Pose.andThen Pose.identity

theorem pose_map (g : Graph) (line : List EntityId) (cursor : Option EntityId) :
    (Ascent.mk (line.map g.localPose) cursor).pose = g.composed line := by
  rw [pose, List.foldl_reverse, List.foldr_map, composed]

theorem run_of_ended {walk : Ascent} (ended : walk.round g = none) (rounds : Nat) :
    walk.run g rounds = walk := by
  cases rounds with
  | zero => rfl
  | succ rounds => rw [run, ended]

theorem run_of_climbs {cursor : Option EntityId} {line : List EntityId}
    (climbs : g.Climbs cursor line) (inside : ∀ x ∈ line, x < g.size) {rounds : Nat}
    (enough : line.length ≤ rounds) (met : List Pose) :
    (Ascent.mk met cursor).run g rounds = ⟨met ++ line.map g.localPose, none⟩ := by
  induction climbs generalizing met rounds with
  | ended =>
      rw [run_of_ended rfl, List.map_nil, List.append_nil]
  | @step id line _ ih =>
      obtain ⟨rounds, rfl⟩ :=
        Nat.exists_eq_add_of_le' (Nat.le_trans (Nat.le_add_left 1 line.length) enough)
      obtain ⟨e, found⟩ := exists_of_lt (inside id List.mem_cons_self)
      have own : g.localPose id = e.transform.pose := by rw [localPose, found]
      have going : (Ascent.mk met (some id)).round g =
          some ⟨met ++ [g.localPose id], g.parent? id⟩ := by
        rw [round, Option.bind_some, found, Option.map_some, own, parent?_of_get? found]
      rw [run, going]
      dsimp only
      rw [ih (fun x member => inside x (List.mem_cons_of_mem _ member))
        (Nat.le_of_succ_le_succ enough), List.map_cons, List.append_assoc, List.singleton_append]

end Ascent

/-! ## The recursion down -/

theorem worldPose_of_none (missing : g.get? id = none) : g.worldPose id = Pose.identity := by
  unfold worldPose
  cases g.size with
  | zero => rfl
  | succ bound => rw [worldPoseWithin, missing]

namespace Forest

theorem worldPose_eq_composed (forest : g.Forest) (inside : id < g.size) :
    g.worldPose id = g.composed (id :: g.ancestors id) := by
  rw [composed_cons, forest.worldPose_eq inside, frame]

/-- The walk up ends within as many rounds as there are entities. -/
theorem ascent_ends (forest : g.Forest) (id : EntityId) {rounds : Nat} (enough : g.size ≤ rounds) :
    ((Ascent.start id).run g rounds).round g = none ∧
      ((Ascent.start id).run g rounds).pose = g.worldPose id := by
  by_cases inside : id < g.size
  · have climbs : g.Climbs (some id) (id :: g.ancestors id) := .step (forest.climbs_ancestors id)
    rw [Ascent.start, Ascent.run_of_climbs climbs (forest.lt_of_mem_line inside)
      (Nat.le_trans (forest.length_ancestors_lt inside) enough), List.nil_append]
    exact ⟨rfl, (Ascent.pose_map g _ none).trans (forest.worldPose_eq_composed inside).symm⟩
  · have missing := get?_eq_none_iff.mpr (Nat.not_lt.mp inside)
    have ended : (Ascent.start id).round g = none := by
      rw [Ascent.round, Ascent.start, Option.bind_some, missing, Option.map_none]
    rw [Ascent.run_of_ended ended, worldPose_of_none missing]
    exact ⟨ended, rfl⟩

theorem worldPose_of_root (forest : g.Forest) {e : Entity} (found : g.get? id = some e)
    (root : e.parent = none) : g.worldPose id = Pose.identity.andThen e.transform.pose := by
  have top : g.parent? id = none := (parent?_of_get? found).trans root
  rw [forest.worldPose_eq (lt_size found), forest.frame_of_root top, localPose, found]

theorem worldPose_of_child (forest : g.Forest) {e : Entity} {parent : EntityId}
    (found : g.get? id = some e) (child : e.parent = some parent) :
    g.worldPose id = (g.worldPose parent).andThen e.transform.pose := by
  have above : g.parent? id = some parent := (parent?_of_get? found).trans child
  rw [forest.worldPose_eq (lt_size found), forest.worldPose_parent above, localPose, found]

/-- A pose in the world depends on the poses on the way up only. -/
theorem worldPose_congr (forest : g.Forest) (other : h.Forest) {id' : EntityId}
    (inside : id < g.size) (inside' : id' < h.size)
    (same : (id' :: h.ancestors id').map h.localPose = (id :: g.ancestors id).map g.localPose) :
    h.worldPose id' = g.worldPose id := by
  rw [other.worldPose_eq_composed inside', forest.worldPose_eq_composed inside,
    ← Ascent.pose_map h _ none, ← Ascent.pose_map g _ none, same]

end Forest

/-! ## Entities that are placed anew -/

/-- A graph with an entity placed anew in the space of its parent. -/
def place (g : Graph) (id : EntityId) (change : LocalTransform → LocalTransform) : Graph :=
  g.modify id fun e => { e with transform := change e.transform }

section

variable (g : Graph) (placed : EntityId) (change : LocalTransform → LocalTransform)

theorem ancestors_place (id : EntityId) : (g.place placed change).ancestors id = g.ancestors id := by
  unfold place
  apply ancestors_congr (size_modify ..)
  intro i
  apply parent?_modify
  exact fun _ => rfl

theorem localPose_place_of_ne {id : EntityId} (other : id ≠ placed) :
    (g.place placed change).localPose id = g.localPose id := by
  rw [localPose, place, get?_modify_of_ne _ _ other.symm]
  rfl

/-- An entity that is placed anew carries along what stands below it and nothing else. -/
theorem Forest.worldPose_place {g : Graph} (forest : g.Forest) {placed : EntityId}
    {id : EntityId} (beside : id ∉ placed :: g.descendants placed) :
    (g.place placed change).worldPose id = g.worldPose id := by
  obtain ⟨other, outside⟩ := not_or.mp (mt List.mem_cons.mpr beside)
  have size : (g.place placed change).size = g.size := size_modify ..
  have still : (g.place placed change).Forest := forest.modify placed fun _ => rfl
  by_cases inside : id < g.size
  · apply forest.worldPose_congr still inside (size ▸ inside)
    rw [ancestors_place]
    refine List.map_congr_left fun x member => localPose_place_of_ne g placed change ?_
    rintro rfl
    -- the placed entity is not above one that does not stand below it
    rcases List.mem_cons.mp member with same | above
    · exact other same.symm
    · refine outside (forest.mem_descendants_iff.mpr (forest.isAncestor_iff.mp ?_))
      exact List.contains_iff_mem.mpr above
  · rw [worldPose_of_none (get?_eq_none_iff.mpr (Nat.not_lt.mp inside)),
      worldPose_of_none (get?_eq_none_iff.mpr (size ▸ Nat.not_lt.mp inside))]

end

/-- The walk up from an entity ends and gives its pose in the world.  A root is placed by its own pose
alone, any other entity by its own pose in the pose of its parent, so that nothing counts but the poses
on the way up: entities with the same ones have the same pose in the world, and placing an entity anew
moves only what stands at or below it. -/
theorem Reachable.worldPose_descends (reachable : g.Reachable) (id : EntityId) :
    (∀ rounds, g.size ≤ rounds →
        ((Ascent.start id).run g rounds).round g = none ∧
          ((Ascent.start id).run g rounds).pose = g.worldPose id) ∧
      (∀ e, g.get? id = some e → e.parent = none →
        g.worldPose id = Pose.identity.andThen e.transform.pose) ∧
      (∀ e parent, g.get? id = some e → e.parent = some parent →
        g.worldPose id = (g.worldPose parent).andThen e.transform.pose) ∧
      (∀ (h : Graph) (id' : EntityId), h.Reachable → id < g.size → id' < h.size →
        (id' :: h.ancestors id').map h.localPose = (id :: g.ancestors id).map g.localPose →
          h.worldPose id' = g.worldPose id) ∧
      ∀ placed change, id ∉ placed :: g.descendants placed →
        (g.place placed change).worldPose id = g.worldPose id := by
  have forest := reachable.forest
  exact ⟨fun _ enough => forest.ascent_ends id enough,
    fun _ found root => forest.worldPose_of_root found root,
    fun _ _ found child => forest.worldPose_of_child found child,
    fun _ _ other inside inside' same => forest.worldPose_congr other.forest inside inside' same,
    fun _ change beside => forest.worldPose_place change beside⟩

/-- A cart of twice the usual size ten units to the right, and a lamp on it. -/
def cartAndLamp : Graph :=
  ((empty.applyAll [.spawn "Cart" none, .spawn "Lamp" (some 0)]).place 0 fun _ =>
    ⟨⟨10, 0, 0⟩, 0, ⟨2, 2, 1⟩⟩).place 1 fun _ => ⟨⟨1, 1, 0⟩, 0, Vector3.one⟩

/-- One unit of the lamp is two units of the world; wherever the lamp is put, the cart stays. -/
theorem worldPose_descends_lamp :
    cartAndLamp.Reachable ∧
      (∃ e, cartAndLamp.get? 1 = some e ∧ e.parent = some 0 ∧
        cartAndLamp.worldPose 1 = (cartAndLamp.worldPose 0).andThen e.transform.pose) ∧
      (cartAndLamp.worldPose 1).translation.x = 12 ∧
      (cartAndLamp.worldPose 1).translation.y = 2 ∧
      ((Ascent.start 1).run cartAndLamp 2).pose = cartAndLamp.worldPose 1 ∧
      ∀ change, (cartAndLamp.place 1 change).worldPose 0 = cartAndLamp.worldPose 0 := by
  have reachable : cartAndLamp.Reachable :=
    .edit 1 (fun _ => rfl) (.edit 0 (fun _ => rfl) (Reachable.start.applyAll _))
  obtain ⟨walks, -, nested, -, -⟩ := reachable.worldPose_descends 1
  obtain ⟨-, -, -, -, rests⟩ := reachable.worldPose_descends 0
  obtain ⟨e, found⟩ := exists_of_lt (show 1 < cartAndLamp.size by decide)
  have child : e.parent = some 0 := by
    rw [← parent?_of_get? found]
    decide
  refine ⟨reachable, ⟨e, found, child, nested e 0 found child⟩, ?_, ?_, (walks 2 (by decide)).2, ?_⟩
  · exact Float32.toBits_inj.mp (by decide +kernel)
  · exact Float32.toBits_inj.mp (by decide +kernel)
  · exact fun change => rests 1 change (by decide)

end GameScenes.Scene.Graph
