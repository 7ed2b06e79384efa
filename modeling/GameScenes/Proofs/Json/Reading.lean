import GameScenes.Json.Reader

/-!
# What was read

When a container or a value is read, then so is what it starts with, and the reader went on from
there.  These lemmas say how, for any ceiling.
-/

set_option autoImplicit false

namespace GameScenes.Json

/-! ## Containers -/

section
variable {ceiling : Option Nat} {readEntry : List Step → List Char → BoundedReading Json}
  {path : List Step} {count bound length : Nat} {cs rest : List Char}

theorem readItems_ok {done items : List Json}
    (h : readItems ceiling readEntry path count done bound cs = .ok (items, rest)) :
    ∃ item after, readEntry (.index count :: path) cs = .ok (item, after) ∧
      beyond ceiling count = false ∧
      ((skipSpace after = ']' :: rest ∧ items = (item :: done).reverse) ∨
        ∃ more fewer, skipSpace after = ',' :: more ∧ bound = fewer + 1 ∧
        readItems ceiling readEntry path (count + 1) (item :: done) fewer (skipSpace more) =
          .ok (items, rest)) := by
  cases bound with
  | zero => cases h
  | succ bound =>
      unfold readItems at h
      cases read : readEntry (.index count :: path) cs with
      | error trouble =>
          rw [read] at h
          cases h
      | ok result =>
          obtain ⟨item, after⟩ := result
          rw [read] at h
          by_cases full : beyond ceiling count = true
          · simp [full] at h
          · simp only [full, Bool.false_eq_true, if_false] at h
            refine ⟨item, after, rfl, by simpa using full, ?_⟩
            split at h
            · cases h
            · cases h
              exact .inl ⟨by assumption, rfl⟩
            next more spelled =>
              split at h
              · cases h
              · cases h
              · exact .inr ⟨more, bound, spelled, rfl, h⟩
            · cases h

theorem readMembers_ok {done members : List (String × Json)}
    (h : readMembers ceiling length readEntry path count done bound cs = .ok (members, rest)) :
    ∃ quoted key behind after value tail, cs = '"' :: quoted ∧
      readText length quoted = .ok (key, behind) ∧ beyond ceiling count = false ∧
      skipSpace behind = ':' :: after ∧ readEntry (.key key :: path) after = .ok (value, tail) ∧
      ((skipSpace tail = '\x7d' :: rest ∧ members = ((key, value) :: done).reverse) ∨
        ∃ more fewer, skipSpace tail = ',' :: more ∧ bound = fewer + 1 ∧
        readMembers ceiling length readEntry path (count + 1) ((key, value) :: done) fewer
          (skipSpace more) = .ok (members, rest)) := by
  unfold readMembers at h
  split at h
  · cases h
  next bound quoted =>
    cases text : readText length quoted with
    | error fault =>
        rw [text] at h
        cases h
    | ok result =>
        obtain ⟨key, behind⟩ := result
        rw [text] at h
        by_cases full : beyond ceiling count = true
        · simp [full] at h
        · simp only [full, Bool.false_eq_true, if_false] at h
          split at h
          · cases h
          next after colon =>
            split at h
            · cases h
            next value tail read =>
              have fits : beyond ceiling count = false := by simpa using full
              refine ⟨quoted, key, behind, after, value, tail, rfl, text, fits, colon, read, ?_⟩
              split at h
              · cases h
              · cases h
                exact .inl ⟨by assumption, rfl⟩
              next more spelled =>
                split at h
                · cases h
                · cases h
                · exact .inr ⟨more, bound, spelled, rfl, h⟩
              · cases h
          · cases h
  · cases h


theorem readItems_prefix {done items : List Json}
    (h : readItems ceiling readEntry path count done bound cs = .ok (items, rest)) :
    ∃ item after others, readEntry (.index count :: path) cs = .ok (item, after) ∧
      items = done.reverse ++ item :: others := by
  induction bound generalizing count done cs with
  | zero => cases h
  | succ bound ih =>
      obtain ⟨item, after, read, -, ⟨-, last⟩ | ⟨more, fewer, -, same, further⟩⟩ :=
        readItems_ok h
      · refine ⟨item, after, [], read, ?_⟩
        rw [last, List.reverse_cons]
      · cases same
        obtain ⟨second, -, others, -, all⟩ := ih further
        refine ⟨item, after, second :: others, read, ?_⟩
        rw [all, List.reverse_cons, List.append_assoc]
        rfl

theorem readMembers_prefix {done members : List (String × Json)}
    (h : readMembers ceiling length readEntry path count done bound cs = .ok (members, rest)) :
    ∃ quoted key behind after value tail others, cs = '"' :: quoted ∧
      readText length quoted = .ok (key, behind) ∧ skipSpace behind = ':' :: after ∧
      readEntry (.key key :: path) after = .ok (value, tail) ∧
      members = done.reverse ++ (key, value) :: others := by
  induction bound generalizing count done cs with
  | zero => cases h
  | succ bound ih =>
      obtain ⟨quoted, key, behind, after, value, tail, opens, text, -, colon, read,
        ⟨-, last⟩ | ⟨more, fewer, -, same, further⟩⟩ := readMembers_ok h
      · refine ⟨quoted, key, behind, after, value, tail, [], opens, text, colon, read, ?_⟩
        rw [last, List.reverse_cons]
      · cases same
        obtain ⟨-, second, -, -, next, -, others, -, -, -, -, all⟩ := ih further
        refine ⟨quoted, key, behind, after, value, tail, (second, next) :: others, opens, text,
          colon, read, ?_⟩
        rw [all, List.reverse_cons, List.append_assoc]
        rfl

end

/-! ## Values -/

theorem lift_map_ok {α β : Type} {r : Except Fault α} {f : α → β} {b : β}
    (h : lift (r.map f) = .ok b) : ∃ a, f a = b := by
  cases r with
  | error fault => cases h
  | ok a => exact ⟨a, by cases h; rfl⟩

def isContainer : Json → Bool
  | array _ => true
  | object _ => true
  | _ => false


/-- A value that is read: no container, an array or an object. -/
theorem readValue_ok {ceiling : Option Nat} {length room : Nat} {path : List Step}
    {cs rest : List Char} {value : Json}
    (h : readValue ceiling length room path cs = .ok (value, rest)) :
    (value.isContainer = false ∧
      ∀ tail, skipSpace cs ≠ '[' :: tail ∧ skipSpace cs ≠ '\x7b' :: tail) ∨
      ∃ fewer tail, room = fewer + 1 ∧
        ((∃ items, skipSpace cs = '[' :: tail ∧ value = .array items ∧
          ((items = [] ∧ skipSpace tail = ']' :: rest) ∨
            readItems ceiling (readValue ceiling length fewer) path 0 [] length (skipSpace tail) =
              .ok (items, rest))) ∨
        ∃ members, skipSpace cs = '\x7b' :: tail ∧ value = .object members ∧
          ((members = [] ∧ skipSpace tail = '\x7d' :: rest) ∨
            readMembers ceiling length (readValue ceiling length fewer) path 0 [] length
              (skipSpace tail) = .ok (members, rest))) := by
  unfold readValue at h
  split at h
  · cases h
  next tail opens =>
    right
    split at h
    · cases h
    next fewer =>
      refine ⟨fewer, tail, rfl, .inl ?_⟩
      split at h
      · cases h
      · cases h
        exact ⟨[], opens, rfl, .inl ⟨rfl, by assumption⟩⟩
      · split at h
        · cases h
        next items after read =>
          cases h
          exact ⟨items, opens, rfl, .inr read⟩
  next tail opens =>
    right
    split at h
    · cases h
    next fewer =>
      refine ⟨fewer, tail, rfl, .inr ?_⟩
      split at h
      · cases h
      · cases h
        exact ⟨[], opens, rfl, .inl ⟨rfl, by assumption⟩⟩
      · split at h
        · cases h
        next members after read =>
          cases h
          exact ⟨members, opens, rfl, .inr read⟩
  case h_9 c tail notArray notObject _ _ _ _ _ opens =>
    split at h
    · obtain ⟨_, same⟩ := lift_map_ok h
      cases same
      refine .inl ⟨rfl, fun other => ?_⟩
      rw [opens]
      constructor
      · exact fun same => notArray (List.cons.inj same).1
      · exact fun same => notObject (List.cons.inj same).1
    · cases h
  all_goals
    next tail opens =>
      obtain ⟨_, same⟩ := lift_map_ok h
      cases same
      exact .inl ⟨rfl, fun tail => by simp [opens]⟩

end GameScenes.Json
