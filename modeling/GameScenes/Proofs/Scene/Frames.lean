import GameScenes.Proofs.Number.Singles
import GameScenes.Proofs.Scene.Reparenting
import GameScenes.Proofs.Scene.Stepwise

/-!
# Entities in resting frames

An entity stands in the frame of its ancestors.  While none of them is moved, the frame stays as it
is (`frame_replay`), and an entity in it that is moved step by step rises in it by about the sum of
its steps, once that is scaled to the world (`Followed.drift`).  Every operation of the geometry is
rounded; with all floats on the way of magnitude less than `2 ^ k`, each is at most `margin k` off, so
that the bottom of the entity's picture rises by the sum of the steps up to a number of such margins
(`Followed.bottom`).
-/

set_option autoImplicit false

namespace GameScenes.Scene.Graph

variable {g h : Graph} {id : EntityId} {steps : List Alignment}

/-! ## Graphs that differ in places -/

theorem AlikeUpToPlaces.size (alike : AlikeUpToPlaces g h) : g.size = h.size := by
  have length := congrArg List.length alike
  simpa [Graph.size] using length

theorem AlikeUpToPlaces.parent? (alike : AlikeUpToPlaces g h) (id : EntityId) :
    g.parent? id = h.parent? id := by
  have same := congrArg (Option.bind · Entity.parent) (alike.get? id)
  simpa [Graph.parent?, Option.bind_map, Function.comp_def, unplaced] using same

/-- The ancestors of an entity depend on the parents only. -/
theorem ancestors_congr (size : g.size = h.size) (parents : ∀ id, g.parent? id = h.parent? id)
    (id : EntityId) : g.ancestors id = h.ancestors id := by
  have within : ∀ bound id, g.ancestorsWithin bound id = h.ancestorsWithin bound id := by
    intro bound
    induction bound with
    | zero => exact fun _ => rfl
    | succ bound ih =>
        intro id
        simp only [ancestorsWithin, parents id, ih]
  rw [Graph.ancestors, Graph.ancestors, size, within]

theorem AlikeUpToPlaces.ancestors (alike : AlikeUpToPlaces g h) (id : EntityId) :
    g.ancestors id = h.ancestors id := ancestors_congr alike.size alike.parent? id

theorem AlikeUpToPlaces.localPose (alike : AlikeUpToPlaces g h) (id : EntityId) :
    (g.localPose id).rotation = (h.localPose id).rotation ∧
      (g.localPose id).scale = (h.localPose id).scale := by
  have same := alike.get? id
  unfold Graph.localPose
  cases first : g.get? id <;> cases second : h.get? id <;> simp [first, second] at same ⊢
  · exact ⟨congrArg (·.transform.rotation) same, congrArg (·.transform.scale.xy) same⟩

theorem replay_alikeUpToPlaces (g : Graph) (steps : List Alignment) :
    AlikeUpToPlaces (g.replay steps) g := by
  induction steps generalizing g with
  | nil => rfl
  | cons step rest ih => exact (ih _).trans (translateWorld_alikeUpToPlaces g step.entity _)

theorem Forest.translateWorld (forest : g.Forest) (id : EntityId) (delta : Vector2) :
    (g.translateWorld id delta).Forest := forest.modify id fun _ => rfl

theorem Forest.replay (forest : g.Forest) (steps : List Alignment) : (g.replay steps).Forest := by
  induction steps generalizing g with
  | nil => exact forest
  | cons step rest ih => exact ih (forest.translateWorld step.entity _)

/-! ## Frames -/

/-- The space in which an entity is placed: its ancestors' poses put together. -/
def frame (g : Graph) (id : EntityId) : Pose := g.composed (g.ancestors id)

/-- The height of an entity in its frame. -/
def height (g : Graph) (id : EntityId) : Float32 := (g.localPose id).translation.y

/-- How far an entity is raised in its frame by a displacement of the world. -/
def rise (g : Graph) (id : EntityId) (delta : Float32) : Float32 :=
  match g.parent? id with
  | some parent => ((g.worldPose parent).pullVector ⟨0, delta⟩).y
  | none => delta

theorem Climbs.unique {cursor : Option EntityId} {line other : List EntityId}
    (walk : g.Climbs cursor line) (again : g.Climbs cursor other) : line = other := by
  induction walk generalizing other with
  | ended =>
      cases again
      rfl
  | step _ ih =>
      cases again with
      | step further => rw [ih further]

theorem Forest.worldPose_eq (forest : g.Forest) (inside : id < g.size) :
    g.worldPose id = (g.frame id).andThen (g.localPose id) := by
  obtain ⟨line, walk, pose⟩ := (forest.walksEnd inside).worldPose
  rw [pose, walk.unique (.step (forest.climbs_ancestors id))]
  rfl

theorem Forest.worldPose_parent (forest : g.Forest) {parent : EntityId}
    (above : g.parent? id = some parent) : g.worldPose parent = g.frame id := by
  obtain ⟨line, walk, pose⟩ := (forest.walksEnd (forest.parent_lt above)).worldPose
  rw [pose, walk.unique (above ▸ forest.climbs_ancestors id)]
  rfl

theorem get?_translateWorld_of_ne {moved : EntityId} (other : moved ≠ id) (delta : Vector2) :
    (g.translateWorld moved delta).get? id = g.get? id := get?_modify_of_ne _ _ other

theorem localPose_translateWorld_of_ne {moved : EntityId} (other : moved ≠ id) (delta : Vector2) :
    (g.translateWorld moved delta).localPose id = g.localPose id := by
  rw [localPose, get?_translateWorld_of_ne other, localPose]

theorem height_translateWorld (inside : id < g.size) (delta : Float32) :
    (g.translateWorld id ⟨0, delta⟩).height id = g.height id + g.rise id delta := by
  obtain ⟨e, found⟩ := exists_of_lt inside
  simp only [height, localPose, translateWorld, get?_modify_self, found, Option.map_some, rise]
  cases g.parent? id <;> rfl

/-- An entity that no step moves is left as it is. -/
theorem get?_replay (untouched : ∀ step ∈ steps, step.entity ≠ id) :
    (g.replay steps).get? id = g.get? id := by
  induction steps generalizing g with
  | nil => rfl
  | cons step rest ih =>
      have later : ∀ other ∈ rest, other.entity ≠ id := fun other member =>
        untouched other (List.mem_cons_of_mem _ member)
      exact (ih later).trans (get?_translateWorld_of_ne (untouched step List.mem_cons_self) _)

theorem localPose_replay (untouched : ∀ step ∈ steps, step.entity ≠ id) :
    (g.replay steps).localPose id = g.localPose id := by
  rw [localPose, get?_replay untouched, localPose]

theorem composed_nil (g : Graph) : g.composed [] = Pose.identity := by
  rw [composed, List.foldr_nil]

theorem composed_cons (g : Graph) (first : EntityId) (rest : List EntityId) :
    g.composed (first :: rest) = (g.composed rest).andThen (g.localPose first) := by
  rw [composed, List.foldr_cons, composed]

theorem composed_congr {line : List EntityId}
    (same : ∀ x ∈ line, g.localPose x = h.localPose x) : g.composed line = h.composed line := by
  induction line with
  | nil => rw [composed_nil, composed_nil]
  | cons first rest ih =>
      have own := same first List.mem_cons_self
      have further := ih fun x member => same x (List.mem_cons_of_mem _ member)
      rw [composed_cons, composed_cons, own, further]

/-- The frame of an entity stays while none of its ancestors is moved. -/
theorem frame_replay (resting : ∀ step ∈ steps, step.entity ∉ g.ancestors id) :
    (g.replay steps).frame id = g.frame id := by
  rw [frame, frame, (replay_alikeUpToPlaces g steps).ancestors]
  exact composed_congr fun x above => localPose_replay fun step member same =>
    resting step member (same ▸ above)

/-! ## Raising an entity -/

open Number (singleValue? Below margin margin_pos margin_add margin_succ)

variable {i j : Int} {d : Float32} {σ : ℚ}

/-- That the frame of an entity is not turned and not too large, nor so small that it swallows all
displacements; its scale along the height is given. -/
structure Upright (frame : Pose) (i : Int) (σ : ℚ) : Prop where
  unturned : (frame.rotation == 0) = true
  scale : singleValue? frame.scale.y = some σ
  bounded : |σ| ≤ 2 ^ i
  invertible : ¬ frame.scale.y.abs ≤ Geometry.epsilon

theorem neg_beq_zero {a : Float32} (zero : (a == 0) = true) : (-a == 0) = true := by
  rw [Float32.beq_iff_ne_nan_and_eq] at zero
  rcases zero.2.2 with rfl | ⟨rfl, -⟩ | ⟨rfl, -⟩ <;> decide +kernel

theorem singleValue?_epsilon : singleValue? Geometry.epsilon = some (2 ^ (-23 : Int)) := by
  have bits : Number.ofSingle? Geometry.epsilon = some ⟨false, 8388608, -46⟩ := by decide +kernel
  rw [singleValue?, bits]
  norm_num [Number.Dyadic.value]

theorem singleValue?_one : singleValue? 1 = some 1 := by
  have bits : Number.ofSingle? 1 = some ⟨false, 8388608, -23⟩ := by decide +kernel
  rw [singleValue?, bits]
  norm_num [Number.Dyadic.value]

theorem Upright.nonzero {frame : Pose} (upright : Upright frame i σ) : σ ≠ 0 := by
  rintro rfl
  refine upright.invertible ?_
  rw [Number.single_le_iff_value (Number.singleValue?_abs upright.scale) singleValue?_epsilon,
    abs_zero]
  positivity

theorem Forest.frame_of_root (forest : g.Forest) (top : g.parent? id = none) :
    g.frame id = Pose.identity := by
  have none : g.ancestors id = [] :=
    (forest.climbs_ancestors id).unique (by rw [top]; exact .ended)
  rw [frame, none, composed_nil]

/-- An entity is raised in its frame by about the quotient of the displacement and the scale. -/
theorem Upright.rise (forest : g.Forest) (upright : Upright (g.frame id) i σ) {r : ℚ}
    (value : singleValue? (g.rise id d) = some r) (less : |r| < 2 ^ (j + 1)) (normal : -125 ≤ j) :
    ∃ δ, singleValue? d = some δ ∧ |r * σ - δ| ≤ 2 * margin (j + i) := by
  unfold Graph.rise at value
  cases above : g.parent? id with
  | none =>
      rw [above] at value
      have one : singleValue? (g.frame id).scale.y = some 1 := by
        rw [forest.frame_of_root above]
        exact singleValue?_one
      obtain rfl : (1 : ℚ) = σ := Option.some_inj.mp (one.symm.trans upright.scale)
      refine ⟨r, value, ?_⟩
      rw [mul_one, sub_self, abs_zero]
      linarith [margin_pos (j + i)]
  | some parent =>
      have quotient : g.rise id d = d / (g.frame id).scale.y := by
        simp only [Graph.rise, above, forest.worldPose_parent above, Pose.pullVector,
          Vector2.rotated, neg_beq_zero upright.unturned, if_true, Geometry.quotient,
          if_neg upright.invertible]
      simp only [Graph.rise, above] at quotient
      rw [above] at value
      simp only [quotient] at value
      obtain ⟨δ, divided, nearest⟩ :=
        Number.single_div_nearest upright.scale upright.nonzero value
      have near := (nearest.single_error less (by omega)).1
      refine ⟨δ, divided, ?_⟩
      have scaled : r * σ - δ = (r - δ / σ) * σ := by
        rw [sub_mul, div_mul_cancel₀ δ upright.nonzero]
      calc |r * σ - δ| = |r - δ / σ| * |σ| := by rw [scaled, abs_mul]
        _ ≤ margin (j + 1) * 2 ^ i := by
            gcongr
            · exact (margin_pos _).le
            · exact upright.bounded
        _ = 2 * margin (j + i) := by rw [margin_succ, mul_assoc, margin_add]

/-! ## Sums and heights -/

theorem ownDeltas_concat (steps : List Alignment) (step : Alignment) (id : EntityId) :
    ownDeltas (steps ++ [step]) id =
      if step.entity = id then ownDeltas steps id ++ [step.deltaY] else ownDeltas steps id := by
  by_cases own : step.entity = id <;> simp [ownDeltas, own]

theorem replay_concat (g : Graph) (steps : List Alignment) (step : Alignment) :
    g.replay (steps ++ [step]) = (g.replay steps).translateWorld step.entity ⟨0, step.deltaY⟩ := by
  rw [replay_append]
  rfl

/-- The conditions under which the height of an entity in its frame follows its steps. -/
structure Followed (g : Graph) (id : EntityId) (steps : List Alignment) (i j : Int) (σ : ℚ) : Prop where
  inside : id < g.size
  resting : ∀ step ∈ steps, step.entity ∉ g.ancestors id
  upright : Upright (g.frame id) i σ
  heights : ∀ taken, taken <+: steps → Below j ((g.replay taken).height id)
  sums : ∀ taken, taken <+: steps → ∀ s ∈ summed? (ownDeltas taken id), Below (j + i) s

/-- One more step of an entity changes its height by about as much as the record. -/
theorem Followed.step {taken : List Alignment} {step : Alignment} {last total : ℚ}
    (forest : g.Forest) (followed : Followed g id (taken ++ [step]) i j σ)
    (own : step.entity = id) (normal : -125 ≤ j) (normal' : -125 ≤ j + i)
    (lastValue : singleValue? ((g.replay taken).height id) = some last)
    (totalValue : (summed? (ownDeltas taken id)).elim (total = 0) (singleValue? · = some total)) :
    ∃ last' total', singleValue? ((g.replay (taken ++ [step])).height id) = some last' ∧
      (summed? (ownDeltas (taken ++ [step]) id)).elim (total' = 0) (singleValue? · = some total') ∧
      |(total' - total) - (last' - last) * σ| ≤ 4 * margin (j + i) := by
  have before : taken <+: taken ++ [step] := List.prefix_append taken [step]
  have frame : (g.replay taken).frame id = g.frame id :=
    frame_replay fun s member => followed.resting s (List.mem_append_left _ member)
  have inside : id < (g.replay taken).size :=
    (replay_alikeUpToPlaces g taken).size ▸ followed.inside
  have moved : (g.replay (taken ++ [step])).height id =
      (g.replay taken).height id + (g.replay taken).rise id step.deltaY := by
    rw [replay_concat, own, height_translateWorld inside]
  have reached := followed.heights (taken ++ [step]) List.prefix_rfl
  rw [moved] at reached ⊢
  obtain ⟨x, r, last', left, right, value, near, less⟩ := reached.add normal
  obtain rfl : x = last := Option.some_inj.mp (left.symm.trans lastValue)
  have small : |r| < 2 ^ (j + 1) := by
    obtain ⟨x', again, less'⟩ := followed.heights taken before
    obtain rfl : x = x' := Option.some_inj.mp (left.symm.trans again)
    have : |r| ≤ |x + r| + |x| := by simpa using abs_sub (x + r) x
    rw [zpow_add_one₀ two_ne_zero]
    linarith
  obtain ⟨δ, delta, rise⟩ := (frame ▸ followed.upright).rise (forest.replay taken) right small normal
  obtain ⟨total', sum, added⟩ : ∃ total',
      (summed? (ownDeltas (taken ++ [step]) id)).elim (total' = 0) (singleValue? · = some total') ∧
        |total' - (total + δ)| ≤ margin (j + i) := by
    have deltas : summed? (ownDeltas (taken ++ [step]) id) =
        some ((summed? (ownDeltas taken id)).elim step.deltaY (· + step.deltaY)) := by
      rw [ownDeltas_concat, if_pos own, summed?_concat]
    have bound := followed.sums (taken ++ [step]) List.prefix_rfl _ (by rw [deltas]; rfl)
    rw [deltas]
    cases sums : summed? (ownDeltas taken id) with
    | none =>
        rw [sums] at totalValue
        obtain rfl : total = 0 := totalValue
        exact ⟨δ, delta, by rw [zero_add, sub_self, abs_zero]; exact (margin_pos _).le⟩
    | some s =>
        rw [sums] at totalValue bound
        obtain ⟨y, δ', total', first, second, sum, near, -⟩ := bound.add normal'
        obtain rfl : y = total := Option.some_inj.mp (first.symm.trans totalValue)
        obtain rfl : δ' = δ := Option.some_inj.mp (second.symm.trans delta)
        exact ⟨total', sum, near⟩
  refine ⟨last', total', value, sum, ?_⟩
  have world : |(last' - (x + r)) * σ| ≤ margin (j + i) := by
    rw [abs_mul, ← margin_add]
    have := (margin_pos j).le
    gcongr
    exact followed.upright.bounded
  have parts : (total' - total) - (last' - x) * σ =
      (total' - (total + δ)) - (last' - (x + r)) * σ - (r * σ - δ) := by ring
  rw [parts]
  linarith [abs_sub (total' - (total + δ) - (last' - (x + r)) * σ) (r * σ - δ),
    abs_sub (total' - (total + δ)) ((last' - (x + r)) * σ)]

/-- What is on record of an entity is about the change of its height in its frame, scaled to the
world. -/
theorem Followed.drift (forest : g.Forest) (followed : Followed g id steps i j σ)
    (normal : -125 ≤ j) (normal' : -125 ≤ j + i) :
    ∃ first last total, singleValue? (g.height id) = some first ∧
      singleValue? ((g.replay steps).height id) = some last ∧
      (summed? (ownDeltas steps id)).elim (total = 0) (singleValue? · = some total) ∧
      |total - (last - first) * σ| ≤ 4 * (ownDeltas steps id).length * margin (j + i) := by
  induction steps using List.reverseRec with
  | nil =>
      obtain ⟨first, value, -⟩ := followed.heights [] List.nil_prefix
      exact ⟨first, first, 0, value, value, rfl, by simp [ownDeltas]⟩
  | append_singleton taken step ih =>
      have before : taken <+: taken ++ [step] := List.prefix_append taken [step]
      have start : Followed g id taken i j σ :=
        ⟨followed.inside, fun s member => followed.resting s (List.mem_append_left _ member),
          followed.upright, fun t part => followed.heights t (part.trans before),
          fun t part => followed.sums t (part.trans before)⟩
      obtain ⟨first, last, total, firstValue, lastValue, totalValue, near⟩ := ih start
      by_cases own : step.entity = id
      · obtain ⟨last', total', lastValue', totalValue', further⟩ :=
          followed.step forest own normal normal' lastValue totalValue
        refine ⟨first, last', total', firstValue, lastValue', totalValue', ?_⟩
        have parts : total' - (last' - first) * σ =
            (total - (last - first) * σ) + ((total' - total) - (last' - last) * σ) := by ring
        rw [ownDeltas_concat, if_pos own, List.length_append, List.length_singleton, parts]
        push_cast
        linarith [abs_add_le (total - (last - first) * σ) ((total' - total) - (last' - last) * σ)]
      · refine ⟨first, last, total, firstValue, ?_, ?_, ?_⟩
        · rw [replay_concat, height, localPose_translateWorld_of_ne own]
          exact lastValue
        · rw [ownDeltas_concat, if_neg own]
          exact totalValue
        · rw [ownDeltas_concat, if_neg own]
          exact near

/-! ## Places in the world -/

/-- An upright frame places a point at about its scaled height above the frame's own place. -/
theorem Upright.place {frame : Pose} {point : Vector2} {height : ℚ} (upright : Upright frame i σ)
    (value : singleValue? point.y = some height) (less : |height| < 2 ^ j)
    (below : Below (j + i) (frame.applyPoint point).y) (normal : -125 ≤ j + i) :
    ∃ base place, singleValue? frame.translation.y = some base ∧
      singleValue? (frame.applyPoint point).y = some place ∧
      |place - (height * σ + base)| ≤ 2 * margin (j + i) := by
  have unturned : (frame.applyPoint point).y = point.y * frame.scale.y + frame.translation.y := by
    have plain : frame.applyVector point = point.scaled frame.scale := by
      rw [Pose.applyVector, Vector2.rotated, if_pos upright.unturned]
    show (frame.applyVector point).y + frame.translation.y = _
    rw [plain]
    rfl
  rw [unturned] at below ⊢
  obtain ⟨product, base, place, scaled, baseValue, placeValue, near, -⟩ := below.add normal
  obtain ⟨height', σ', first, second, nearest⟩ := Number.single_mul_nearest scaled
  obtain rfl : height' = height := Option.some_inj.mp (first.symm.trans value)
  obtain rfl : σ' = σ := Option.some_inj.mp (second.symm.trans upright.scale)
  have small : |height' * σ'| < 2 ^ (j + i) := by
    rw [abs_mul, zpow_add₀ two_ne_zero]
    have : (0 : ℚ) < 2 ^ i := zpow_pos two_pos i
    have := upright.bounded
    calc |height'| * |σ'| ≤ |height'| * 2 ^ i := by gcongr
      _ < 2 ^ j * 2 ^ i := by gcongr
  have rounded := nearest.single_error_of_exact small normal
  refine ⟨base, place, baseValue, placeValue, ?_⟩
  have parts : place - (height' * σ' + base) =
      (place - (product + base)) + (product - height' * σ') := by ring
  rw [parts]
  linarith [abs_add_le (place - (product + base)) (product - height' * σ')]

/-- That a float stands for a number that is about a given distance above that of another. -/
def Raised (distance error : ℚ) (a b : Float32) : Prop :=
  ∃ x y, singleValue? a = some x ∧ singleValue? b = some y ∧ |(y - x) - distance| ≤ error

variable {distance error : ℚ} {a b a' b' : Float32}

theorem Raised.smaller (first : Raised distance error a b) (second : Raised distance error a' b') :
    Raised distance error (Geometry.smaller a a') (Geometry.smaller b b') := by
  obtain ⟨x, y, left, right, near⟩ := first
  obtain ⟨x', y', left', right', near'⟩ := second
  refine ⟨_, _, Number.singleValue?_smaller left left', Number.singleValue?_smaller right right', ?_⟩
  rw [abs_le] at near near' ⊢
  rcases min_cases x x' with ⟨least, _⟩ | ⟨least, _⟩ <;>
    rcases min_cases y y' with ⟨least', _⟩ | ⟨least', _⟩ <;>
    rw [least, least'] <;> constructor <;> linarith

theorem foldl_withPoint_bottom (points : List Vector2) (b : Bounds) :
    (points.foldl Bounds.withPoint b).min.y =
      points.foldl (fun y p => Geometry.smaller y p.y) b.min.y := by
  induction points generalizing b with
  | nil => rfl
  | cons p rest ih => exact ih _

theorem Raised.foldl {points : List Vector2} {f f' : Vector2 → Vector2}
    (all : ∀ p ∈ points, Raised distance error (f p).y (f' p).y) {y y' : Float32}
    (start : Raised distance error y y') :
    Raised distance error ((points.map f).foldl (fun y p => Geometry.smaller y p.y) y)
      ((points.map f').foldl (fun y p => Geometry.smaller y p.y) y') := by
  induction points generalizing y y' with
  | nil => exact start
  | cons p rest ih =>
      exact ih (fun q member => all q (List.mem_cons_of_mem _ member))
        (start.smaller (all p List.mem_cons_self))

/-- A rectangle is raised as its corners are. -/
theorem Raised.bottom {p p' : Pose} {bounds : Bounds}
    (corners : ∀ c ∈ bounds.corners, Raised distance error (p.applyPoint c).y (p'.applyPoint c).y) :
    Raised distance error (p.applyBounds bounds).min.y (p'.applyBounds bounds).min.y := by
  obtain ⟨first, rest, split⟩ : ∃ first rest, bounds.corners = first :: rest := ⟨_, _, rfl⟩
  have bottom : ∀ q : Pose, (q.applyBounds bounds).min.y =
      (rest.map q.applyPoint).foldl (fun y p => Geometry.smaller y p.y) (q.applyPoint first).y := by
    intro q
    rw [Pose.applyBounds, split]
    exact foldl_withPoint_bottom (rest.map q.applyPoint) ⟨q.applyPoint first, q.applyPoint first⟩
  rw [split] at corners
  rw [bottom, bottom]
  exact Raised.foldl (fun c member => corners c (List.mem_cons_of_mem _ member))
    (corners first List.mem_cons_self)

/-! ## The bottom of a picture -/

/-- The extent of an entity's picture in its own space. -/
def picture? (g : Graph) (id : EntityId) : Option Bounds :=
  (g.get? id).bind fun e => e.components.visual.map (·.localBounds)

/-- The height in the world at which an entity's picture ends below. -/
def bottom? (g : Graph) (id : EntityId) : Option ℚ :=
  (g.visualBounds? id).bind fun bounds => singleValue? bounds.min.y

/-- That the place of an entity and the corners of its picture are at heights of magnitude less than
a power of two. -/
structure Within (g : Graph) (id : EntityId) (k : Int) : Prop where
  place : Below k (g.worldPose id).translation.y
  corners : ∀ bounds ∈ g.picture? id, ∀ c ∈ bounds.corners,
    Below k ((g.worldPose id).applyPoint c).y

theorem visualBounds?_eq (g : Graph) (id : EntityId) :
    g.visualBounds? id = (g.picture? id).map (g.worldPose id).applyBounds := by
  unfold visualBounds? picture?
  cases g.get? id with
  | none => rfl
  | some e =>
      rw [Option.bind_some, Option.map_map]
      rfl

theorem AlikeUpToPlaces.picture? (alike : AlikeUpToPlaces g h) (id : EntityId) :
    g.picture? id = h.picture? id := by
  have same := congrArg (Option.bind · fun e => e.components.visual.map (·.localBounds))
    (alike.get? id)
  simpa [Graph.picture?, Option.bind_map, Function.comp_def, unplaced] using same

/-- A point of an entity is raised as the entity is in its frame, scaled to the world. -/
theorem Followed.point (forest : g.Forest) (followed : Followed g id steps i j σ)
    (normal : -125 ≤ j + i) {first last : ℚ} (firstValue : singleValue? (g.height id) = some first)
    (lastValue : singleValue? ((g.replay steps).height id) = some last) {c : Vector2}
    (place : Below (j + i) (g.worldPose id).translation.y)
    (place' : Below (j + i) ((g.replay steps).worldPose id).translation.y)
    (corner : Below (j + i) ((g.worldPose id).applyPoint c).y)
    (corner' : Below (j + i) (((g.replay steps).worldPose id).applyPoint c).y) :
    Raised ((last - first) * σ) (6 * margin (j + i)) ((g.worldPose id).applyPoint c).y
      (((g.replay steps).worldPose id).applyPoint c).y := by
  have alike := replay_alikeUpToPlaces g steps
  have small : ∀ taken, taken <+: steps → ∀ x, singleValue? ((g.replay taken).height id) = some x →
      |x| < 2 ^ j := by
    intro taken part x value
    obtain ⟨x', again, less⟩ := followed.heights taken part
    rwa [Option.some_inj.mp (value.symm.trans again)]
  have pose := forest.worldPose_eq followed.inside
  have pose' : (g.replay steps).worldPose id =
      (g.frame id).andThen ((g.replay steps).localPose id) := by
    rw [(forest.replay steps).worldPose_eq (alike.size ▸ followed.inside),
      frame_replay followed.resting]
  obtain ⟨rotation, scale⟩ := alike.localPose id
  have turned : ((g.replay steps).worldPose id).applyVector c = (g.worldPose id).applyVector c := by
    rw [pose, pose']
    simp only [Pose.applyVector, Pose.andThen, rotation, scale]
  have split : ∀ p : Pose, (p.applyPoint c).y = (p.applyVector c).y + p.translation.y :=
    fun _ => rfl
  rw [split] at corner corner'
  rw [Raised, split, split]
  rw [turned] at corner' ⊢
  obtain ⟨κ, τ, v, offset, placeValue, value, near, -⟩ := corner.add normal
  obtain ⟨κ', τ', v', offset', placeValue', value', near', -⟩ := corner'.add normal
  obtain rfl : κ = κ' := Option.some_inj.mp (offset.symm.trans offset')
  rw [pose] at place placeValue
  rw [pose'] at place' placeValue'
  obtain ⟨base, τ₁, baseValue, again, close⟩ :=
    followed.upright.place firstValue (small [] List.nil_prefix first firstValue) place normal
  obtain ⟨base', τ₂, baseValue', again', close'⟩ :=
    followed.upright.place lastValue (small steps List.prefix_rfl last lastValue) place' normal
  obtain rfl : base = base' := Option.some_inj.mp (baseValue.symm.trans baseValue')
  obtain rfl : τ = τ₁ := Option.some_inj.mp (placeValue.symm.trans again)
  obtain rfl : τ' = τ₂ := Option.some_inj.mp (placeValue'.symm.trans again')
  refine ⟨v, v', value, value', ?_⟩
  rw [abs_le] at *
  constructor <;> linarith

/-- What is on record of an entity is about the change of the bottom of its picture. -/
theorem Followed.bottom (forest : g.Forest) (followed : Followed g id steps i j σ)
    (pictured : (g.picture? id).isSome) (within : Within g id (j + i))
    (within' : Within (g.replay steps) id (j + i)) (normal : -125 ≤ j) (normal' : -125 ≤ j + i) :
    ∃ before after total, g.bottom? id = some before ∧ (g.replay steps).bottom? id = some after ∧
      (summed? (ownDeltas steps id)).elim (total = 0) (singleValue? · = some total) ∧
      |total - (after - before)| ≤ (4 * (ownDeltas steps id).length + 6) * margin (j + i) := by
  obtain ⟨bounds, picture⟩ := Option.isSome_iff_exists.mp pictured
  have picture' : (g.replay steps).picture? id = some bounds :=
    ((replay_alikeUpToPlaces g steps).picture? id).trans picture
  obtain ⟨first, last, total, firstValue, lastValue, totalValue, near⟩ :=
    followed.drift forest normal normal'
  have raised : Raised ((last - first) * σ) (6 * margin (j + i))
      ((g.worldPose id).applyBounds bounds).min.y
      (((g.replay steps).worldPose id).applyBounds bounds).min.y :=
    Raised.bottom fun c member => followed.point forest normal' firstValue lastValue within.place
      within'.place (within.corners bounds picture c member) (within'.corners bounds picture' c member)
  obtain ⟨before, after, beforeValue, afterValue, close⟩ := raised
  refine ⟨before, after, total, ?_, ?_, totalValue, ?_⟩
  · rw [bottom?, visualBounds?_eq, picture]
    exact beforeValue
  · rw [bottom?, visualBounds?_eq, picture']
    exact afterValue
  · rw [abs_le] at *
    constructor <;> linarith

end GameScenes.Scene.Graph
