import GameScenes.Proofs.Tiles.Walk

/-!
# Loops cut into unit edges

A loop is given by the corners at which it turns.  Its sides join each corner to the next one and
the last corner to the first; `loopEdges` cuts them into unit edges.  Of a closed walk the corners
keep everything: `loopEdges_turns` says that cutting the loop of a walk gives back the edges of the
walk, up to the edge at which it starts.
-/

set_option autoImplicit false

namespace GameScenes.Tiles

/-- The corner some unit edges further in a direction. -/
def Corner.ahead (c : Corner) (heading : Heading) : Nat → Corner
  | 0 => c
  | n + 1 => Corner.ahead (Edge.target ⟨c, heading⟩) heading n

/-- Unit edges in one direction. -/
def straightRun (start : Corner) (heading : Heading) : Nat → List Edge
  | 0 => []
  | n + 1 => ⟨start, heading⟩ :: straightRun (Edge.target ⟨start, heading⟩) heading n

/-- The unit edges from a corner to another one on the same line of the grid. -/
def unitEdges (a b : Corner) : List Edge :=
  if a.y = b.y then
    if a.x ≤ b.x then straightRun a .east (b.x - a.x).toNat
    else straightRun a .west (a.x - b.x).toNat
  else if a.x = b.x then
    if a.y ≤ b.y then straightRun a .north (b.y - a.y).toNat
    else straightRun a .south (a.y - b.y).toNat
  else []

/-- The sides from corner to corner and from the last one to `final`. -/
def sidesTo (final : Corner) : List Corner → List (Corner × Corner)
  | [] => []
  | c :: rest => (c, rest.headD final) :: sidesTo final rest

def sides (loop : List Corner) : List (Corner × Corner) :=
  match loop with
  | [] => []
  | c :: rest => sidesTo c (c :: rest)

/-- Whether a side runs along a line of the grid. -/
def IsStraight (side : Corner × Corner) : Prop :=
  side.1.x = side.2.x ∨ side.1.y = side.2.y

def sideEdges (all : List (Corner × Corner)) : List Edge :=
  all.flatMap fun side => unitEdges side.1 side.2

/-- The unit edges of a closed loop. -/
def loopEdges (loop : List Corner) : List Edge := sideEdges (sides loop)

/-! ## Straight runs -/

theorem Corner.ahead_east (c : Corner) (n : Nat) : c.ahead .east n = ⟨c.x + n, c.y⟩ := by
  induction n generalizing c with
  | zero => simp [Corner.ahead]
  | succ n ih =>
      rw [Corner.ahead, ih]
      simp [Edge.target]
      omega

theorem Corner.ahead_north (c : Corner) (n : Nat) : c.ahead .north n = ⟨c.x, c.y + n⟩ := by
  induction n generalizing c with
  | zero => simp [Corner.ahead]
  | succ n ih =>
      rw [Corner.ahead, ih]
      simp [Edge.target]
      omega

theorem Corner.ahead_west (c : Corner) (n : Nat) : c.ahead .west n = ⟨c.x - n, c.y⟩ := by
  induction n generalizing c with
  | zero => simp [Corner.ahead]
  | succ n ih =>
      rw [Corner.ahead, ih]
      simp [Edge.target]
      omega

theorem Corner.ahead_south (c : Corner) (n : Nat) : c.ahead .south n = ⟨c.x, c.y - n⟩ := by
  induction n generalizing c with
  | zero => simp [Corner.ahead]
  | succ n ih =>
      rw [Corner.ahead, ih]
      simp [Edge.target]
      omega

theorem Corner.ahead_injective (c : Corner) (heading : Heading) (m n : Nat)
    (same : c.ahead heading m = c.ahead heading n) : m = n := by
  cases heading <;>
    simp [Corner.ahead_east, Corner.ahead_north, Corner.ahead_west, Corner.ahead_south] at same <;>
    omega

/-- A straight run is what its ends are cut into. -/
theorem unitEdges_ahead (c : Corner) (heading : Heading) (n : Nat) :
    unitEdges c (c.ahead heading n) = straightRun c heading n := by
  cases heading with
  | east =>
      have count : (c.x + (n : Int) - c.x).toNat = n := by omega
      simp only [unitEdges, Corner.ahead_east]
      rw [if_pos trivial, if_pos (by omega), count]
  | north =>
      cases n with
      | zero => simp [unitEdges, Corner.ahead, straightRun]
      | succ n =>
          have count : (c.y + ((n + 1 : Nat) : Int) - c.y).toNat = n + 1 := by omega
          simp only [unitEdges, Corner.ahead_north]
          rw [if_neg (by omega), if_pos trivial, if_pos (by omega), count]
  | west =>
      cases n with
      | zero => simp [unitEdges, Corner.ahead, straightRun]
      | succ n =>
          have count : (c.x - (c.x - ((n + 1 : Nat) : Int))).toNat = n + 1 := by omega
          simp only [unitEdges, Corner.ahead_west]
          rw [if_pos trivial, if_neg (by omega), count]
  | south =>
      cases n with
      | zero => simp [unitEdges, Corner.ahead, straightRun]
      | succ n =>
          have count : (c.y - (c.y - ((n + 1 : Nat) : Int))).toNat = n + 1 := by omega
          simp only [unitEdges, Corner.ahead_south]
          rw [if_neg (by omega), if_pos trivial, if_neg (by omega), count]

theorem isStraight_ahead (c : Corner) (heading : Heading) (n : Nat) :
    IsStraight (c, c.ahead heading n) := by
  cases heading <;>
    simp [IsStraight, Corner.ahead_east, Corner.ahead_north, Corner.ahead_west,
      Corner.ahead_south]

/-! ## Paths -/

/-- Whether edges lead from a corner to another, each from where the one before it ends. -/
def IsPath (a : Corner) : List Edge → Corner → Prop
  | [], b => a = b
  | e :: rest, b => e.start = a ∧ IsPath e.target rest b

theorem isPath_straightRun (c : Corner) (heading : Heading) (n : Nat) :
    IsPath c (straightRun c heading n) (c.ahead heading n) := by
  induction n generalizing c with
  | zero => rfl
  | succ n ih => exact ⟨rfl, ih _⟩

theorem IsPath.append_straightRun {a b : Corner} {edges : List Edge} (path : IsPath a edges b)
    (heading : Heading) (n : Nat) :
    IsPath a (edges ++ straightRun b heading n) (b.ahead heading n) := by
  induction edges generalizing a with
  | nil =>
      have same : a = b := path
      subst same
      exact isPath_straightRun a heading n
  | cons e rest ih => exact ⟨path.1, ih path.2⟩

/-- The edges of a trail form a path. -/
theorem IsTrail.isPath {filled : Cell → Bool} {first last : Edge} {rest : List Edge}
    (trail : IsTrail filled (first :: rest)) (ends : (first :: rest).getLast? = some last) :
    IsPath first.start (first :: rest) last.target := by
  induction rest generalizing first with
  | nil =>
      have same : first = last := by simpa using ends
      exact ⟨rfl, by rw [same]; rfl⟩
  | cons next rest ih =>
      have further := ih trail.tail (by simpa using ends)
      have joined : next.start = first.target := by
        rw [← trail.1, successor_start]
      rw [joined] at further
      exact ⟨rfl, further⟩

theorem turnsAfter_straightRun (heading : Heading) (c : Corner) (n : Nat) :
    turnsAfter heading (straightRun c heading n) = [] := by
  induction n generalizing c with
  | zero => rfl
  | succ n ih => simp [straightRun, turnsAfter, ih]

/-- Going on straight adds no turn. -/
theorem turnsAfter_append_straightRun (previous heading : Heading) (edges : List Edge) (c : Corner)
    (n : Nat) (ends : (edges.getLast?.map (·.heading)).getD previous = heading) :
    turnsAfter previous (edges ++ straightRun c heading n) = turnsAfter previous edges := by
  induction edges generalizing previous with
  | nil =>
      have same : previous = heading := by simpa using ends
      rw [same, List.nil_append, turnsAfter_straightRun]
      rfl
  | cons e rest ih =>
      have endsRest : (rest.getLast?.map (·.heading)).getD e.heading = heading := by
        cases rest with
        | nil => simpa using ends
        | cons next rest =>
            cases found : (next :: rest).getLast? with
            | none => simp at found
            | some last =>
                rw [List.getLast?_cons_cons, found] at ends
                exact ends
      simp only [List.cons_append, turnsAfter, ih e.heading endsRest]

/-- A path is a straight run in the direction before it, up to its first turn, and then the sides
between its turns. -/
theorem IsPath.eq_append_sides {a b : Corner} {edges : List Edge} (path : IsPath a edges b)
    (previous : Heading) :
    ∃ n, a.ahead previous n = (turnsAfter previous edges).headD b ∧
      edges = straightRun a previous n ++ sideEdges (sidesTo b (turnsAfter previous edges)) ∧
      ∀ side ∈ sidesTo b (turnsAfter previous edges), IsStraight side := by
  induction edges generalizing a previous with
  | nil => exact ⟨0, path, rfl, by simp [turnsAfter, sidesTo]⟩
  | cons e rest ih =>
      obtain ⟨start, heading⟩ := e
      obtain ⟨startEq, restPath⟩ := path
      dsimp only at startEq
      subst startEq
      obtain ⟨n, reached, split, straight⟩ := ih restPath heading
      have farther : start.ahead heading (n + 1) = (turnsAfter heading rest).headD b := reached
      by_cases same : heading = previous
      · subst same
        refine ⟨n + 1, ?_, ?_, ?_⟩
        · simpa [turnsAfter] using farther
        · simp only [turnsAfter, if_pos, straightRun, List.cons_append]
          exact congrArg _ split
        · simpa [turnsAfter] using straight
      · have turned : turnsAfter previous (⟨start, heading⟩ :: rest) =
            start :: turnsAfter heading rest := by simp [turnsAfter, same]
        rw [turned]
        refine ⟨0, rfl, ?_, ?_⟩
        · have side : unitEdges start ((turnsAfter heading rest).headD b) =
              straightRun start heading (n + 1) := by
            rw [← farther, unitEdges_ahead]
          simp only [sidesTo, sideEdges, List.flatMap_cons, side, straightRun, List.nil_append,
            List.cons_append]
          exact congrArg _ split
        · intro side member
          rcases List.mem_cons.mp member with here | later
          · rw [here, ← farther]
            exact isStraight_ahead start heading (n + 1)
          · exact straight side later

/-! ## Closed walks -/

/-- The sides of the loop of a closed walk are straight, and cut into unit edges they are the edges
of the walk. -/
theorem loopEdges_turns {filled : Cell → Bool} {edges : List Edge}
    (closed : ClosedWalk filled edges) :
    (∀ side ∈ sides (turns edges), IsStraight side) ∧ (loopEdges (turns edges)).Perm edges := by
  obtain ⟨first, last, starts, ends, closing⟩ := closed.closes
  obtain ⟨rest, rfl⟩ : ∃ rest, edges = first :: rest := by
    cases edges with
    | nil => simp at starts
    | cons head rest => exact ⟨rest, by simpa using starts⟩
  have path := closed.trail.isPath ends
  rw [← successor_start filled last, closing] at path
  have corners : turns (first :: rest) = turnsAfter last.heading (first :: rest) := by
    simp only [turns, ends]
  rw [corners]
  obtain ⟨n, reached, split, _⟩ := path.eq_append_sides last.heading
  -- The walk is continued along the run it starts with, up to its first turn.
  have longer := path.append_straightRun last.heading n
  have sameTurns := turnsAfter_append_straightRun last.heading last.heading (first :: rest)
    first.start n (by simp [ends])
  obtain ⟨m, reachedLonger, splitLonger, straightLonger⟩ := longer.eq_append_sides last.heading
  rw [sameTurns] at reachedLonger splitLonger straightLonger
  cases turned : turnsAfter last.heading (first :: rest) with
  | nil =>
      -- Without a turn the walk could not come back.
      simp only [turned, List.headD_nil] at reached
      have still : n = 0 := Corner.ahead_injective first.start last.heading n 0 reached
      rw [turned, still] at split
      simp [straightRun, sidesTo, sideEdges] at split
  | cons c others =>
      simp only [turned, List.headD_cons] at reached reachedLonger splitLonger straightLonger
      have sameLength : m = n := by
        apply Corner.ahead_injective first.start last.heading
        rw [reachedLonger, reached]
      rw [reached] at splitLonger straightLonger
      rw [sameLength] at splitLonger
      refine ⟨straightLonger, ?_⟩
      have cyclic : (straightRun first.start last.heading n ++ loopEdges (c :: others)).Perm
          (straightRun first.start last.heading n ++ first :: rest) := by
        calc straightRun first.start last.heading n ++ loopEdges (c :: others)
            = (first :: rest) ++ straightRun first.start last.heading n := splitLonger.symm
          _ |>.Perm (straightRun first.start last.heading n ++ first :: rest) :=
            List.perm_append_comm
      exact (List.perm_append_left_iff _).mp cyclic

end GameScenes.Tiles
