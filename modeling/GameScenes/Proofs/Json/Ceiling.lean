import GameScenes.Document.Game
import GameScenes.Proofs.Json.Reading

/-!
# Reading under a ceiling

A text is read under a ceiling as the value that it is read as without one, provided that no
container written in it has more entries; otherwise the path of a container is reported that has
(`readBounded_agrees`).
-/

set_option autoImplicit false

namespace GameScenes.Json

/-! ## Containers of a value -/

/-- The number of items or members. -/
def entries : Json → Nat
  | array items => items.length
  | object members => members.length
  | _ => 0

/-- That a path leads from a value to one inside it. -/
inductive Leads : Json → List Step → Json → Prop
  | here (j : Json) : Leads j [] j
  | item {items : List Json} {k : Nat} {item target : Json} {path : List Step} :
      items[k]? = some item → Leads item path target →
        Leads (.array items) (.index k :: path) target
  | member {members : List (String × Json)} {key : String} {value target : Json}
      {path : List Step} : (key, value) ∈ members → Leads value path target →
        Leads (.object members) (.key key :: path) target

/-- That no container of a value has more than `limit` entries. -/
def Within (limit : Nat) (j : Json) : Prop :=
  ∀ path container, Leads j path container → container.entries ≤ limit

/-! ## Containers of a text -/

/-- That the items of an array, from the one at `count` on, are too many, or that one of them is
overfull.  They are read one by one up to this place; what stands behind it may be anything. -/
inductive ItemsOverfull (limit : Nat) (read : List Char → BoundedReading Json)
    (excess : List Step → List Char → Prop) : Nat → List Step → List Char → Prop
  | here {count : Nat} {cs rest : List Char} {item : Json} : limit ≤ count →
      read cs = .ok (item, rest) → ItemsOverfull limit read excess count [] cs
  | inside {count : Nat} {cs : List Char} {path : List Step} : excess path cs →
      ItemsOverfull limit read excess count (.index count :: path) cs
  | later {count : Nat} {cs rest more : List Char} {path : List Step} {item : Json} :
      read cs = .ok (item, rest) → skipSpace rest = ',' :: more →
      ItemsOverfull limit read excess (count + 1) path (skipSpace more) →
        ItemsOverfull limit read excess count path cs

/-- That the members of an object, from the one at `count` on, are too many, or that the value of
one of them is overfull.  Of the member that is one too many only the key has to be there. -/
inductive MembersOverfull (limit length : Nat) (read : List Char → BoundedReading Json)
    (excess : List Step → List Char → Prop) : Nat → List Step → List Char → Prop
  | here {count : Nat} {cs rest : List Char} {key : String} : limit ≤ count →
      readText length cs = .ok (key, rest) →
        MembersOverfull limit length read excess count [] ('"' :: cs)
  | inside {count : Nat} {cs rest after : List Char} {key : String} {path : List Step} :
      readText length cs = .ok (key, rest) → skipSpace rest = ':' :: after → excess path after →
        MembersOverfull limit length read excess count (.key key :: path) ('"' :: cs)
  | later {count : Nat} {cs rest after behind more : List Char} {key : String} {value : Json}
      {path : List Step} :
      readText length cs = .ok (key, rest) → skipSpace rest = ':' :: after →
      read after = .ok (value, behind) → skipSpace behind = ',' :: more →
      MembersOverfull limit length read excess (count + 1) path (skipSpace more) →
        MembersOverfull limit length read excess count path ('"' :: cs)

/-- That a path leads to a container in a text that has more than `limit` entries. -/
def Overfull (limit length : Nat) : Nat → List Step → List Char → Prop
  | 0, _, _ => False
  | room + 1, path, cs =>
      (∃ rest, skipSpace cs = '[' :: rest ∧
        ItemsOverfull limit (readValue none length room []) (Overfull limit length room) 0 path
          (skipSpace rest)) ∨
      ∃ rest, skipSpace cs = '\x7b' :: rest ∧
        MembersOverfull limit length (readValue none length room []) (Overfull limit length room) 0
          path (skipSpace rest)

/-! ## One reader under two ceilings -/

/-- That reading did not stop because of a container with too many entries. -/
def Uncrowded {α : Type} (result : Except Trouble α) : Prop :=
  ∀ path, result ≠ .error (.crowded path)

theorem uncrowded_ok {α : Type} (a : α) : Uncrowded (.ok a) := nofun

theorem uncrowded_lift {α : Type} (result : Except Fault α) : Uncrowded (lift result) := by
  intro path same
  cases result with
  | error fault => cases same
  | ok a => cases same

theorem Uncrowded.error {α β : Type} {trouble : Trouble}
    (h : Uncrowded (.error trouble : Except Trouble α)) :
    Uncrowded (.error trouble : Except Trouble β) := by
  rintro path same
  cases same
  exact h path rfl

/-- How a reader under a ceiling goes along with one that knows none: either with the same result,
or it stops at a container that is overfull. -/
def Agrees {α : Type} (ceiling : Option Nat) (path : List Step) (excess : Nat → List Step → Prop)
    (bounded plain : Except Trouble α) : Prop :=
  (bounded = plain ∧ Uncrowded plain) ∨ ∃ limit steps, ceiling = some limit ∧
    bounded = .error (.crowded (steps.reverse ++ path)) ∧ excess limit steps

namespace Agrees

variable {α : Type} {ceiling : Option Nat} {path : List Step} {excess : Nat → List Step → Prop}

theorem same {result : Except Trouble α} (h : Uncrowded result) :
    Agrees ceiling path excess result result := .inl ⟨rfl, h⟩

theorem lift (result : Except Fault α) : Agrees ceiling path excess (lift result) (lift result) :=
  same (uncrowded_lift result)

theorem eq_of_none {bounded plain : Except Trouble α} (h : Agrees none path excess bounded plain) :
    bounded = plain := by
  rcases h with ⟨same, -⟩ | ⟨limit, -, ceiled, -⟩
  · exact same
  · cases ceiled

end Agrees

@[simp] theorem beyond_none (count : Nat) : beyond none count = false := rfl

theorem beyond_eq_true {ceiling : Option Nat} {count : Nat} (h : beyond ceiling count = true) :
    ∃ limit, ceiling = some limit ∧ limit ≤ count := by
  cases ceiling with
  | none => simp at h
  | some limit => exact ⟨limit, rfl, by simpa [beyond] using h⟩

section

variable {ceiling : Option Nat} {length : Nat}
  {bounded plain : List Step → List Char → BoundedReading Json}
  {excess : Nat → List Step → List Char → Prop}

theorem agrees_readItems
    (entry : ∀ path path' cs, Agrees ceiling path (fun limit steps => excess limit steps cs)
      (bounded path cs) (plain path' cs))
    (paths : ∀ path cs, plain path cs = plain [] cs)
    (path path' : List Step) (count : Nat) (done : List Json) (bound : Nat) (cs : List Char) :
    Agrees ceiling path
      (fun limit steps => ItemsOverfull limit (plain []) (excess limit) count steps cs)
      (readItems ceiling bounded path count done bound cs)
      (readItems none plain path' count done bound cs) := by
  induction bound generalizing count done cs with
  | zero => exact .lift _
  | succ bound ih =>
      unfold readItems
      rcases entry (.index count :: path) (.index count :: path') cs with
        ⟨same, uncrowded⟩ | ⟨limit, steps, ceiled, stopped, inside⟩
      · rw [same]
        cases read : plain (.index count :: path') cs with
        | error trouble =>
            rw [read] at uncrowded
            exact .same uncrowded.error
        | ok result =>
            obtain ⟨item, rest⟩ := result
            rw [paths] at read
            -- an item is read before it is counted
            by_cases full : beyond ceiling count = true
            · obtain ⟨limit, ceiled, reached⟩ := beyond_eq_true full
              right
              refine ⟨limit, [], ceiled, ?_, .here reached read⟩
              simp [full]
            · simp only [full, beyond_none, Bool.false_eq_true, if_false]
              split
              · exact .lift _
              · exact .same (uncrowded_ok _)
              next more comma =>
                have next := ih (count + 1) (item :: done) (skipSpace more)
                split
                · exact .lift _
                · exact .lift _
                · rcases next with same | ⟨limit, steps, ceiled, stopped, inside⟩
                  · exact .inl same
                  · exact .inr ⟨limit, steps, ceiled, stopped, .later read comma inside⟩
              · exact .lift _
      · right
        refine ⟨limit, .index count :: steps, ceiled, ?_, .inside inside⟩
        rw [stopped]
        simp

theorem agrees_readMembers
    (entry : ∀ path path' cs, Agrees ceiling path (fun limit steps => excess limit steps cs)
      (bounded path cs) (plain path' cs))
    (paths : ∀ path cs, plain path cs = plain [] cs)
    (path path' : List Step) (count : Nat) (done : List (String × Json)) (bound : Nat)
    (cs : List Char) :
    Agrees ceiling path
      (fun limit steps => MembersOverfull limit length (plain []) (excess limit) count steps cs)
      (readMembers ceiling length bounded path count done bound cs)
      (readMembers none length plain path' count done bound cs) := by
  induction bound generalizing count done cs with
  | zero => exact .lift _
  | succ bound ih =>
      unfold readMembers
      split
      · exact .lift _
      next reached quoted same =>
        obtain rfl : bound = reached := Nat.succ.inj same
        cases text : readText length quoted with
        | error fault => exact .lift (.error fault)
        | ok result =>
            obtain ⟨key, rest⟩ := result
            -- a member is counted behind its key, before its value is read
            by_cases full : beyond ceiling count = true
            · obtain ⟨limit, ceiled, reached⟩ := beyond_eq_true full
              right
              refine ⟨limit, [], ceiled, ?_, .here reached text⟩
              simp [full]
            · simp only [full, beyond_none, Bool.false_eq_true, if_false]
              split
              · exact .lift _
              next after colon =>
                rcases entry (.key key :: path) (.key key :: path') after with
                  ⟨same, uncrowded⟩ | ⟨limit, steps, ceiled, stopped, inside⟩
                · rw [same]
                  cases read : plain (.key key :: path') after with
                  | error trouble =>
                      rw [read] at uncrowded
                      exact .same uncrowded.error
                  | ok result =>
                      obtain ⟨value, behind⟩ := result
                      rw [paths] at read
                      dsimp only
                      split
                      · exact .lift _
                      · exact .same (uncrowded_ok _)
                      next more comma =>
                        have next := ih (count + 1) ((key, value) :: done) (skipSpace more)
                        split
                        · exact .lift _
                        · exact .lift _
                        · rcases next with same | ⟨limit, steps, ceiled, stopped, inside⟩
                          · exact .inl same
                          · exact .inr ⟨limit, steps, ceiled, stopped,
                              .later text colon read comma inside⟩
                      · exact .lift _
                · right
                  refine ⟨limit, .key key :: steps, ceiled, ?_, .inside text colon inside⟩
                  rw [stopped]
                  simp
              · exact .lift _
      · exact .lift _

end

theorem agrees_readValue (ceiling : Option Nat) (length room : Nat) (path path' : List Step)
    (cs : List Char) :
    Agrees ceiling path (fun limit steps => Overfull limit length room steps cs)
      (readValue ceiling length room path cs) (readValue none length room path' cs) := by
  induction room generalizing ceiling path path' cs with
  | zero =>
      unfold readValue
      split
      case h_9 =>
        split
        · exact .lift _
        · exact .lift _
      all_goals exact .lift _
  | succ room ih =>
      have paths : ∀ path cs,
          readValue none length room path cs = readValue none length room [] cs := by
        intro path cs
        exact (ih none path [] cs).eq_of_none
      unfold readValue
      split
      case h_2 rest opens =>
        have items := agrees_readItems (ih ceiling) paths path path' 0 [] length (skipSpace rest)
        dsimp only
        split
        · exact .lift _
        · exact .same (uncrowded_ok _)
        · rcases items with ⟨same, uncrowded⟩ | ⟨limit, steps, ceiled, stopped, inside⟩
          · rw [same]
            split
            next failed =>
              rw [failed] at uncrowded
              exact .same uncrowded.error
            · exact .same (uncrowded_ok _)
          · rw [stopped]
            exact .inr ⟨limit, steps, ceiled, rfl, .inl ⟨rest, opens, inside⟩⟩
      case h_3 rest opens =>
        have members := @agrees_readMembers ceiling length _ _ _ (ih ceiling) paths path path' 0 []
          length (skipSpace rest)
        dsimp only
        split
        · exact .lift _
        · exact .same (uncrowded_ok _)
        · rcases members with ⟨same, uncrowded⟩ | ⟨limit, steps, ceiled, stopped, inside⟩
          · rw [same]
            split
            next failed =>
              rw [failed] at uncrowded
              exact .same uncrowded.error
            · exact .same (uncrowded_ok _)
          · rw [stopped]
            exact .inr ⟨limit, steps, ceiled, rfl, .inr ⟨rest, opens, inside⟩⟩
      case h_9 =>
        split
        · exact .lift _
        · exact .lift _
      all_goals exact .lift _

/-! ## What is read under a ceiling -/

theorem Within.of_plain {limit : Nat} {value : Json} (plain : value.isContainer = false) :
    value.Within limit := by
  intro path container leads
  cases leads with
  | here => cases value <;> simp_all [isContainer, entries]
  | item => cases plain
  | member => cases plain

theorem Within.array {limit : Nat} {items : List Json} (few : items.length ≤ limit)
    (each : ∀ item ∈ items, item.Within limit) : (Json.array items).Within limit := by
  intro path container leads
  cases leads with
  | here => exact few
  | item found leads => exact each _ (List.mem_of_getElem? found) _ _ leads

theorem Within.object {limit : Nat} {members : List (String × Json)}
    (few : members.length ≤ limit) (each : ∀ member ∈ members, member.2.Within limit) :
    (Json.object members).Within limit := by
  intro path container leads
  cases leads with
  | here => exact few
  | member found leads => exact each _ found _ _ leads

section
variable {limit length : Nat} {readEntry : List Step → List Char → BoundedReading Json}

theorem readItems_within {path : List Step} {count bound : Nat} {done items : List Json}
    {cs rest : List Char}
    (h : readItems (some limit) readEntry path count done bound cs = .ok (items, rest))
    (entry : ∀ {path cs value rest}, readEntry path cs = .ok (value, rest) → value.Within limit)
    (counted : done.length = count) (before : ∀ item ∈ done, item.Within limit) :
    (Json.array items).Within limit := by
  induction bound generalizing count done cs with
  | zero => cases h
  | succ bound ih =>
      obtain ⟨item, after, read, room, last⟩ := readItems_ok h
      have fits : (item :: done).length ≤ limit := by
        simp [beyond] at room
        simp
        omega
      have all : ∀ other ∈ item :: done, other.Within limit := by
        intro other member
        rcases List.mem_cons.mp member with rfl | early
        · exact entry read
        · exact before other early
      rcases last with ⟨-, last⟩ | ⟨more, fewer, -, same, further⟩
      · rw [last]
        refine .array (by simpa using fits) ?_
        intro other member
        exact all other (List.mem_reverse.mp member)
      · cases same
        exact ih further (congrArg (· + 1) counted) all

theorem readMembers_within {path : List Step} {count bound : Nat}
    {done members : List (String × Json)} {cs rest : List Char}
    (h : readMembers (some limit) length readEntry path count done bound cs = .ok (members, rest))
    (entry : ∀ {path cs value rest}, readEntry path cs = .ok (value, rest) → value.Within limit)
    (counted : done.length = count) (before : ∀ member ∈ done, member.2.Within limit) :
    (Json.object members).Within limit := by
  induction bound generalizing count done cs with
  | zero => cases h
  | succ bound ih =>
      obtain ⟨quoted, key, behind, after, value, tail, -, -, room, -, read, last⟩ :=
        readMembers_ok h
      have fits : ((key, value) :: done).length ≤ limit := by
        simp [beyond] at room
        simp
        omega
      have all : ∀ other ∈ (key, value) :: done, other.2.Within limit := by
        intro other member
        rcases List.mem_cons.mp member with rfl | early
        · exact entry read
        · exact before other early
      rcases last with ⟨-, last⟩ | ⟨more, fewer, -, same, further⟩
      · rw [last]
        refine .object (by simpa using fits) ?_
        intro other member
        exact all other (List.mem_reverse.mp member)
      · cases same
        exact ih further (congrArg (· + 1) counted) all

theorem readValue_within {room : Nat} {path : List Step} {cs rest : List Char} {value : Json}
    (h : readValue (some limit) length room path cs = .ok (value, rest)) : value.Within limit := by
  induction room generalizing path cs rest value with
  | zero =>
      rcases readValue_ok h with ⟨plain, -⟩ | ⟨fewer, tail, same, -⟩
      · exact .of_plain plain
      · cases same
  | succ room ih =>
      rcases readValue_ok h with ⟨plain, -⟩ | ⟨fewer, tail, same,
        ⟨items, -, rfl, ⟨rfl, -⟩ | read⟩ | ⟨members, -, rfl, ⟨rfl, -⟩ | read⟩⟩
      · exact .of_plain plain
      · exact .array (Nat.zero_le limit) fun item member => absurd member (by simp)
      · cases same
        exact readItems_within read ih rfl (by simp)
      · exact .object (Nat.zero_le limit) fun member inside => absurd inside (by simp)
      · cases same
        exact readMembers_within read ih rfl (by simp)

end

/-! ## Overfull texts that are read without a ceiling -/

section
variable {limit length room count : Nat} {steps : List Step} {cs : List Char}

theorem readValue_close (ceiling : Option Nat) (path : List Step) (result : Json × List Char) :
    readValue ceiling length room path (']' :: cs) ≠ .ok result := by
  unfold readValue
  simp [skipSpace, isSpace, Number.isDigit, Number.digit?, lift, faultHere]

theorem not_itemsOverfull_close :
    ¬ ItemsOverfull limit (readValue none length room []) (Overfull limit length room) count steps
      (']' :: cs) := by
  intro h
  cases h with
  | here _ read => exact readValue_close none [] _ read
  | inside excess => cases room <;> simp [Overfull, skipSpace, isSpace] at excess
  | later read => exact readValue_close none [] _ read

end

section
variable {limit length : Nat} {plain : List Step → List Char → BoundedReading Json}
  {excess : List Step → List Char → Prop}

theorem ItemsOverfull.found {count : Nat} {steps path : List Step} {cs rest : List Char}
    {bound : Nat} {done items : List Json}
    (h : ItemsOverfull limit (plain []) excess count steps cs)
    (read : readItems none plain path count done bound cs = .ok (items, rest))
    (paths : ∀ path cs, plain path cs = plain [] cs)
    (entry : ∀ {steps path cs item rest}, excess steps cs → plain path cs = .ok (item, rest) →
      ∃ container, item.Leads steps container ∧ limit < container.entries)
    (counted : done.length = count) :
    ∃ container, (Json.array items).Leads steps container ∧ limit < container.entries := by
  induction h generalizing done bound with
  | here reached _ => 
      obtain ⟨item, after, others, -, all⟩ := readItems_prefix read
      refine ⟨.array items, .here _, ?_⟩
      simp [entries, all]
      omega
  | inside excess =>
      obtain ⟨item, after, others, first, all⟩ := readItems_prefix read
      obtain ⟨container, leads, many⟩ := entry excess first
      refine ⟨container, .item ?_ leads, many⟩
      rw [all, ← counted]
      simp
  | later first spelled _ ih =>
      obtain ⟨item, after, again, -, ⟨closed, -⟩ | ⟨more, fewer, goes, -, further⟩⟩ :=
        readItems_ok read
      all_goals
        rw [paths, first] at again
        cases again
      · rw [spelled] at closed
        cases closed
      · rw [spelled] at goes
        cases goes
        exact ih further (congrArg (· + 1) counted)

theorem MembersOverfull.found {count : Nat} {steps path : List Step} {cs rest : List Char}
    {bound : Nat} {done members : List (String × Json)}
    (h : MembersOverfull limit length (plain []) excess count steps cs)
    (read : readMembers none length plain path count done bound cs = .ok (members, rest))
    (paths : ∀ path cs, plain path cs = plain [] cs)
    (entry : ∀ {steps path cs value rest}, excess steps cs → plain path cs = .ok (value, rest) →
      ∃ container, value.Leads steps container ∧ limit < container.entries)
    (counted : done.length = count) :
    ∃ container, (Json.object members).Leads steps container ∧ limit < container.entries := by
  induction h generalizing done bound with
  | here reached _ =>
      obtain ⟨quoted, key, behind, after, value, tail, others, -, -, -, -, all⟩ :=
        readMembers_prefix read
      refine ⟨.object members, .here _, ?_⟩
      simp [entries, all]
      omega
  | inside text colon excess =>
      obtain ⟨quoted, key, behind, after, value, tail, others, opens, again, opened, first, all⟩ :=
        readMembers_prefix read
      cases opens
      rw [text] at again
      cases again
      rw [colon] at opened
      cases opened
      obtain ⟨container, leads, many⟩ := entry excess first
      refine ⟨container, .member ?_ leads, many⟩
      rw [all]
      simp
  | later text colon first spelled _ ih =>
      obtain ⟨quoted, key, behind, after, value, tail, opens, again, -, opened, second, last⟩ :=
        readMembers_ok read
      cases opens
      rw [text] at again
      cases again
      rw [colon] at opened
      cases opened
      rw [paths, first] at second
      cases second
      rcases last with ⟨closed, -⟩ | ⟨more, fewer, goes, -, further⟩
      · rw [spelled] at closed
        cases closed
      · rw [spelled] at goes
        cases goes
        exact ih further (congrArg (· + 1) counted)

end

theorem readValue_path (length room : Nat) (path : List Step) (cs : List Char) :
    readValue none length room path cs = readValue none length room [] cs :=
  (agrees_readValue none length room path [] cs).eq_of_none

theorem Overfull.found {limit length room : Nat} {steps path : List Step} {cs rest : List Char}
    {value : Json} (h : Overfull limit length room steps cs)
    (read : readValue none length room path cs = .ok (value, rest)) :
    ∃ container, value.Leads steps container ∧ limit < container.entries := by
  induction room generalizing steps path cs rest value with
  | zero => exact h.elim
  | succ room ih =>
      have paths := readValue_path length room
      rcases h with ⟨tail, opens, inside⟩ | ⟨tail, opens, inside⟩
      · rcases readValue_ok read with ⟨-, other⟩ | ⟨fewer, same, level, 
          ⟨items, spelled, rfl, ⟨rfl, closed⟩ | all⟩ | ⟨members, spelled, -⟩⟩
        · exact absurd opens (other tail).1
        · rw [opens] at spelled
          cases spelled
          rw [closed] at inside
          exact absurd inside not_itemsOverfull_close
        · rw [opens] at spelled
          cases spelled
          cases level
          exact inside.found all paths ih rfl
        · rw [opens] at spelled
          cases spelled
      · rcases readValue_ok read with ⟨-, other⟩ | ⟨fewer, same, level, 
          ⟨items, spelled, -⟩ | ⟨members, spelled, rfl, ⟨rfl, closed⟩ | all⟩⟩
        · exact absurd opens (other tail).2
        · rw [opens] at spelled
          cases spelled
        · rw [opens] at spelled
          cases spelled
          rw [closed] at inside
          cases inside
        · rw [opens] at spelled
          cases spelled
          cases level
          exact inside.found all paths ih rfl

/-! ## Whole texts -/

theorem agrees_readWhole (ceiling : Option Nat) (cs : List Char) :
    Agrees ceiling [] (fun limit steps => Overfull limit (cs.length + 1) nestingLimit steps cs)
      (readWhole ceiling cs) (readWhole none cs) := by
  unfold readWhole
  rcases agrees_readValue ceiling (cs.length + 1) nestingLimit [] [] cs with
    ⟨same, uncrowded⟩ | ⟨limit, steps, ceiled, stopped, inside⟩
  · rw [same]
    split
    next failed =>
      rw [failed] at uncrowded
      exact .same uncrowded.error
    · split
      · exact .same (uncrowded_ok _)
      · exact .lift _
  · rw [stopped]
    exact .inr ⟨limit, steps, ceiled, rfl, inside⟩

theorem readWhole_ok {ceiling : Option Nat} {cs : List Char} {value : Json}
    (h : readWhole ceiling cs = .ok value) :
    ∃ rest, readValue ceiling (cs.length + 1) nestingLimit [] cs = .ok (value, rest) := by
  unfold readWhole at h
  split at h
  · cases h
  next read =>
    split at h
    · cases h
      exact ⟨_, read⟩
    · cases h

/-- A text is read under a ceiling as a value exactly when it is read so without one, and no
container of the value is beyond the ceiling. -/
theorem readWhole_ok_iff (limit : Nat) (cs : List Char) (written : Json) :
    readWhole (some limit) cs = .ok written ↔
      readWhole none cs = .ok written ∧ written.Within limit := by
  constructor
  · intro h
    obtain ⟨rest, read⟩ := readWhole_ok h
    refine ⟨?_, readValue_within read⟩
    rcases agrees_readWhole (some limit) cs with ⟨same, -⟩ | ⟨_, _, _, stopped, _⟩
    · rw [← same, h]
    · rw [h] at stopped
      cases stopped
  · rintro ⟨h, within⟩
    rcases agrees_readWhole (some limit) cs with ⟨same, -⟩ | ⟨_, steps, ceiled, -, excess⟩
    · rw [same, h]
    · cases ceiled
      obtain ⟨rest, read⟩ := readWhole_ok h
      obtain ⟨container, leads, many⟩ := excess.found read
      exact absurd (within steps container leads) (Nat.not_le.mpr many)

theorem readWhole_crowded {limit : Nat} {cs : List Char} {path : List Step}
    (h : readWhole (some limit) cs = .error (.crowded path)) :
    Overfull limit (cs.length + 1) nestingLimit path.reverse cs := by
  rcases agrees_readWhole (some limit) cs with
    ⟨same, uncrowded⟩ | ⟨_, steps, ceiled, stopped, excess⟩
  · rw [← same] at uncrowded
    exact absurd h (uncrowded path)
  · rw [h] at stopped
    cases ceiled
    cases stopped
    simpa using excess

theorem readWhole_faulty {limit : Nat} {cs : List Char} {fault : Fault}
    (h : readWhole (some limit) cs = .error (.faulty fault)) :
    readWhole none cs = .error (.faulty fault) := by
  rcases agrees_readWhole (some limit) cs with ⟨same, -⟩ | ⟨_, _, _, stopped, _⟩
  · rw [← same, h]
  · rw [h] at stopped
    cases stopped

theorem read_ok_iff (cs : List Char) (value : Json) :
    read cs = .ok value ↔
      ∃ written, readWhole none cs = .ok written ∧ written.canonical = value := by
  unfold read
  cases readWhole none cs with
  | ok written => simp
  | error trouble => cases trouble <;> simp [faultAtEnd]

theorem readBounded_ok_iff (limit : Nat) (cs : List Char) (value : Json) :
    readBounded limit cs = .ok value ↔
      ∃ written, readWhole (some limit) cs = .ok written ∧ written.canonical = value := by
  unfold readBounded
  cases readWhole (some limit) cs with
  | ok written => simp [Except.map]
  | error trouble => simp [Except.map]

theorem readBounded_error {limit : Nat} {cs : List Char} {trouble : Trouble}
    (h : readBounded limit cs = .error trouble) :
    readWhole (some limit) cs = .error trouble := by
  unfold readBounded at h
  cases whole : readWhole (some limit) cs with
  | ok written =>
      rw [whole] at h
      cases h
  | error cause =>
      rw [whole] at h
      cases h
      rfl

/-- Under a ceiling a text is read as a value exactly when it is read so without one and no
container that is written in it is beyond the ceiling.  A fault is the fault that there is without
a ceiling; and where the entries of a container are reported to be too many, its path leads to a
container that has too many. -/
theorem readBounded_agrees (limit : Nat) (cs : List Char) :
    (∀ value, readBounded limit cs = .ok value ↔
      read cs = .ok value ∧ ∃ written, readWhole none cs = .ok written ∧ written.Within limit) ∧
    (∀ fault, readBounded limit cs = .error (.faulty fault) → read cs = .error fault) ∧
    ∀ trouble shown, readBounded limit cs = .error trouble →
      Document.Game.rejectionOf cs trouble = .tooManyElements shown →
      ∃ steps, shown = "$" ++ pathText steps ∧
        Overfull limit (cs.length + 1) nestingLimit steps cs ∧
        ∀ written, readWhole none cs = .ok written →
          ∃ container, written.Leads steps container ∧ limit < container.entries := by
  refine ⟨?_, ?_, ?_⟩
  · intro value
    rw [readBounded_ok_iff, read_ok_iff]
    constructor
    · rintro ⟨written, whole, same⟩
      obtain ⟨plain, within⟩ := (readWhole_ok_iff limit cs written).mp whole
      exact ⟨⟨written, plain, same⟩, written, plain, within⟩
    · rintro ⟨⟨written, plain, same⟩, other, again, within⟩
      rw [plain] at again
      cases again
      exact ⟨written, (readWhole_ok_iff limit cs written).mpr ⟨plain, within⟩, same⟩
  · intro fault h
    unfold read
    rw [readWhole_faulty (readBounded_error h)]
  · intro trouble shown h rejected
    cases trouble with
    | faulty fault =>
        unfold Document.Game.rejectionOf at rejected
        dsimp only at rejected
        split at rejected
        · cases rejected
        · cases rejected
    | crowded path =>
        cases rejected
        have excess := readWhole_crowded (readBounded_error h)
        refine ⟨path.reverse, rfl, excess, ?_⟩
        intro written plain
        obtain ⟨rest, read⟩ := readWhole_ok plain
        exact excess.found read

/-- An object of one member whose value is an array of two items. -/
def pairText : List Char := "\x7b\"a\":[true,true]\x7d".toList

theorem readBounded_agrees_pair :
    ∃ trouble written, readBounded 1 pairText = .error trouble ∧
      Document.Game.rejectionOf pairText trouble = .tooManyElements "$.a" ∧
      readWhole none pairText = .ok written ∧
      ∃ steps container, "$.a" = "$" ++ pathText steps ∧ written.Leads steps container ∧
        1 < container.entries := by
  have stopped : readBounded 1 pairText = .error (.crowded [.key "a"]) := by rfl
  have whole : readWhole none pairText =
      .ok (.object [("a", .array [.bool true, .bool true])]) := by rfl
  obtain ⟨steps, shown, -, found⟩ := (readBounded_agrees 1 pairText).2.2 _ _ stopped rfl
  obtain ⟨container, leads, many⟩ := found _ whole
  exact ⟨_, _, stopped, rfl, whole, steps, container, shown, leads, many⟩

end GameScenes.Json
