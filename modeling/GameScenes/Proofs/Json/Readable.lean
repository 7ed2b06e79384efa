import GameScenes.Json.Typed
import GameScenes.Proofs.Json.Lexemes

/-!
# Files read back

A typed reader reads characters as a value when it stops right behind them with this value
(`Reads`).  Every reader of a file is put together from readers of texts, truth values, numbers,
lists and records, and so is the proof that it reads what is printed.
-/

set_option autoImplicit false

namespace GameScenes.Json

open Number (isDigit digitsOf)

/-- That a reader reads characters as a value, with any blanks before them and anything behind
them that may stand behind a value. -/
structure Reads {α : Type} (reader : TypedReader α) (cs : List Char) (a : α) : Prop where
  starts : ∃ c tail, cs = c :: tail ∧ isSpace c = false ∧ c ≠ ']'
  reads : ∀ (length : Nat) (blanks rest : List Char), (∀ c ∈ blanks, isSpace c = true) →
    cs.length + rest.length ≤ length → Closes rest →
      reader length (blanks ++ (cs ++ rest)) = .ok (a, rest)

/-! ## Blanks -/

theorem skipSpace_blanks (blanks cs : List Char) (blank : ∀ c ∈ blanks, isSpace c = true) :
    skipSpace (blanks ++ cs) = skipSpace cs := by
  unfold skipSpace
  rw [List.dropWhile_append_of_pos blank]

theorem skipSpace_cons {c : Char} (cs : List Char) (shown : isSpace c = false) :
    skipSpace (c :: cs) = c :: cs := by
  simp [skipSpace, List.dropWhile, shown]

theorem skipSpace_to {c : Char} (blanks cs : List Char) (blank : ∀ c ∈ blanks, isSpace c = true)
    (shown : isSpace c = false) : skipSpace (blanks ++ c :: cs) = c :: cs := by
  rw [skipSpace_blanks blanks _ blank, skipSpace_cons cs shown]

theorem isSpace_of_mem_newLine {depth : Nat} {c : Char} (member : c ∈ newLine depth) :
    isSpace c = true := by
  simp only [newLine, List.mem_cons, List.mem_replicate] at member
  rcases member with rfl | ⟨-, rfl⟩ <;> decide

/-! ## Values without entries -/

theorem readValue_text (ceiling : Option Nat) (length room : Nat) (path : List Step)
    (cs : List Char) :
    readValue ceiling length room path ('"' :: cs) =
      lift ((readText length cs).map fun (s, after) => (.text s, after)) := by
  unfold readValue
  rw [skipSpace_cons cs (by decide)]
  rfl

theorem readValue_true (ceiling : Option Nat) (length room : Nat) (path : List Step)
    (cs : List Char) :
    readValue ceiling length room path ('t' :: 'r' :: 'u' :: 'e' :: cs) =
      .ok (.bool true, cs) := by
  unfold readValue
  rw [skipSpace_cons _ (by decide)]
  rfl

theorem readValue_false (ceiling : Option Nat) (length room : Nat) (path : List Step)
    (cs : List Char) :
    readValue ceiling length room path ('f' :: 'a' :: 'l' :: 's' :: 'e' :: cs) =
      .ok (.bool false, cs) := by
  unfold readValue
  rw [skipSpace_cons _ (by decide)]
  rfl

theorem isDigit_cases {P : Char → Prop} (all : ∀ n, n < 10 → P (Char.ofNat (48 + n))) {c : Char}
    (digit : isDigit c = true) : P c := by
  simp only [isDigit, Number.digit?, Option.isSome_ite] at digit
  have low : 48 ≤ c.toNat := digit.1
  have high : c.toNat ≤ 57 := digit.2
  have spelled : Char.ofNat (48 + (c.toNat - 48)) = c := by
    rw [Nat.add_sub_cancel' low, Char.ofNat_toNat]
  rw [← spelled]
  exact all _ (by omega)

theorem readValue_digit (ceiling : Option Nat) (length room : Nat) (path : List Step) {c : Char}
    (cs : List Char) (digit : isDigit c = true) :
    readValue ceiling length room path (c :: cs) =
      lift ((readNumeral false (c :: cs)).map fun (n, after) => (.number n, after)) := by
  have shown : isSpace c = false :=
    isDigit_cases (P := fun c => isSpace c = false) (by decide) digit
  have apart : ∀ other ∈ ['[', '\x7b', 'n', 't', 'f', '"', '-'], c ≠ other := by
    have plain : (['[', '\x7b', 'n', 't', 'f', '"', '-'].all fun other => !isDigit other) = true := by
      decide
    rintro other member rfl
    have none := List.all_eq_true.mp plain c member
    rw [digit] at none
    simp at none
  unfold readValue
  rw [skipSpace_cons cs shown]
  split
  all_goals first
    | (next same => exact absurd (List.cons.inj same).1 (apart _ (by decide)))
    | (next same => simp at same)
    | (next same =>
        cases same
        rw [if_pos digit])

namespace TypedReader

theorem head_array (length : Nat) (blanks rest : List Char)
    (blank : ∀ c ∈ blanks, isSpace c = true) :
    head length (blanks ++ '[' :: rest) = .ok (.array [], rest) := by
  simp only [head, skipSpace_to blanks rest blank (c := '[') (by decide)]

theorem head_object (length : Nat) (blanks rest : List Char)
    (blank : ∀ c ∈ blanks, isSpace c = true) :
    head length (blanks ++ '\x7b' :: rest) = .ok (.object [], rest) := by
  simp only [head, skipSpace_to blanks rest blank (c := '\x7b') (by decide)]

/-- A value that is no container is read by the reader of values. -/
theorem head_of_readValue {length : Nat} {blanks : List Char} {c : Char} {cs : List Char}
    {result : Json × List Char} (blank : ∀ c ∈ blanks, isSpace c = true)
    (shown : isSpace c = false) (plain : c ≠ '[' ∧ c ≠ '\x7b')
    (read : readValue none length 0 [] (c :: cs) = .ok result) :
    head length (blanks ++ c :: cs) = .ok result := by
  unfold head
  rw [skipSpace_to blanks cs blank shown]
  split
  next same => exact absurd (List.cons.inj same).1 plain.1
  next same => exact absurd (List.cons.inj same).1 plain.2
  · rw [read]

end TypedReader

namespace Reads

open TypedReader

variable {α β : Type}

/-- What a decoder turns a value into is read where the value is read. -/
theorem ofDecoder {decode : Decoder α} {a : α} {c : Char} {tail : List Char} (value : Json)
    (shown : isSpace c = false) (plain : c ≠ '[' ∧ c ≠ '\x7b' ∧ c ≠ ']')
    (read : ∀ (length : Nat) (rest : List Char), (c :: tail).length + rest.length ≤ length →
      Closes rest → readValue none length 0 [] (c :: tail ++ rest) = .ok (value, rest))
    (decoded : decode value = .ok a) : Reads (TypedReader.ofDecoder decode) (c :: tail) a where
  starts := ⟨c, tail, rfl, shown, plain.2.2⟩
  reads length blanks rest blank enough closes := by
    have head : TypedReader.head length (blanks ++ (c :: tail ++ rest)) = .ok (value, rest) :=
      head_of_readValue blank shown ⟨plain.1, plain.2.1⟩ (read length rest enough closes)
    simp only [TypedReader.ofDecoder, head, decoded]

theorem text (s : String) : Reads TypedReader.text (textChars s) s := by
  have spelled : textChars s = '"' :: (s.toList.flatMap escapeChar ++ ['"']) := rfl
  rw [spelled]
  refine ofDecoder (.text s) (by decide) (by decide) ?_ rfl
  intro length rest enough closes
  have short : s.toList.length < length := by
    have escaped := length_le_escaped s.toList
    simp only [List.length_cons, List.length_append] at enough
    omega
  rw [List.cons_append, List.append_assoc, List.singleton_append, readValue_text,
    readText_printed s rest length short]
  rfl

theorem flag (depth : Nat) (b : Bool) : Reads TypedReader.flag (prettyChars depth (.bool b)) b := by
  cases b with
  | true =>
      exact ofDecoder (.bool true) (by decide) (by decide)
        (fun length rest _ _ => readValue_true none length 0 [] rest) rfl
  | false =>
      exact ofDecoder (.bool false) (by decide) (by decide)
        (fun length rest _ _ => readValue_false none length 0 [] rest) rfl

theorem word (depth : Nat) (n : UInt32) :
    Reads TypedReader.word (prettyChars depth (.number (.int n.toNat))) n := by
  have printed : prettyChars depth (.number (.int n.toNat)) = digitsOf n.toNat := by
    simp [prettyChars, numberChars, Number.intText]
  have small : n.toNat < 4294967296 := n.toNat_lt
  have decoded : Decoder.word (.number (.int n.toNat)) = .ok n := by
    simp only [Decoder.word, Decoder.whole]
    rw [if_pos (by omega)]
    simp [Except.map]
  obtain ⟨c, tail, spelled⟩ : ∃ c tail, digitsOf n.toNat = c :: tail :=
    List.exists_cons_of_ne_nil Nat.toDigits_ne_nil
  have digit : isDigit c = true := Number.isDigit_of_mem_digitsOf (n := n.toNat) (by simp [spelled])
  have plain : isSpace c = false ∧ c ≠ '[' ∧ c ≠ '\x7b' ∧ c ≠ ']' :=
    isDigit_cases (P := fun c => isSpace c = false ∧ c ≠ '[' ∧ c ≠ '\x7b' ∧ c ≠ ']') (by decide) digit
  rw [printed, spelled]
  refine ofDecoder (.number (.int n.toNat)) plain.1 plain.2 ?_ decoded
  intro length rest enough closes
  have numeral := readNumeral_digitsOf n.toNat (by unfold maxSignificand; omega) closes
  rw [spelled] at numeral
  rw [List.cons_append, readValue_digit _ _ _ _ _ digit, ← List.cons_append, numeral]
  rfl

theorem mapped {reader : TypedReader α} {cs : List Char} {a : α} (f : α → β)
    (read : Reads reader cs a) : Reads (reader.mapped f) cs (f a) where
  starts := read.starts
  reads length blanks rest blank enough closes := by
    simp only [TypedReader.mapped, read.reads length blanks rest blank enough closes, Except.map]

theorem optional_none (depth : Nat) (reader : TypedReader α) :
    Reads reader.optional (prettyChars depth .null) none where
  starts := ⟨'n', _, rfl, by decide, by decide⟩
  reads length blanks rest blank enough closes := by
    unfold TypedReader.optional
    rw [prettyChars, List.cons_append, skipSpace_to blanks _ blank (by decide)]
    rfl

theorem optional_some {reader : TypedReader α} {c : Char} {tail : List Char} {a : α} (other : c ≠ 'n')
    (read : Reads reader (c :: tail) a) : Reads reader.optional (c :: tail) (some a) where
  starts := read.starts
  reads length blanks rest blank enough closes := by
    obtain ⟨first, cs, same, shown, -⟩ := read.starts
    cases same
    have behind := read.reads length [] rest (by simp) enough closes
    unfold TypedReader.optional
    rw [List.cons_append, skipSpace_to blanks _ blank shown]
    split
    next same => exact absurd (List.cons.inj same).1 other
    · rw [List.nil_append, List.cons_append] at behind
      rw [behind]
      rfl

/-! ## Lists -/

theorem closes_prettyItems (depth : Nat) (items : List Json) (rest : List Char) :
    Closes (prettyItems depth items ++ rest) := by
  intro c first
  cases items with
  | nil =>
      simp [prettyItems, newLine] at first
      exact .inr first.symm
  | cons item others =>
      simp [prettyItems] at first
      exact .inl first.symm

theorem length_lt_prettyItems (depth : Nat) (items : List Json) :
    items.length < (prettyItems depth items).length := by
  induction items with
  | nil => simp [prettyItems]
  | cons item rest ih =>
      simp only [prettyItems, List.length_cons, List.length_append]
      omega

theorem nextItem_first {c : Char} (blanks cs : List Char) (blank : ∀ c ∈ blanks, isSpace c = true)
    (shown : isSpace c = false) (opens : c ≠ ']') :
    nextItem true (blanks ++ c :: cs) = .ok (true, c :: cs) := by
  unfold nextItem
  rw [skipSpace_to blanks cs blank shown]
  split
  next same => simp at same
  next same => exact absurd (List.cons.inj same).1 opens
  · rfl

theorem nextItem_comma {c : Char} (blanks cs : List Char) (blank : ∀ c ∈ blanks, isSpace c = true)
    (shown : isSpace c = false) (opens : c ≠ ']') :
    nextItem false (',' :: (blanks ++ c :: cs)) = .ok (true, c :: cs) := by
  unfold nextItem
  rw [skipSpace_cons _ (by decide)]
  split
  next same => simp at same
  next same => exact absurd (List.cons.inj same).1 (by decide)
  · rw [if_neg (by decide)]
    split
    next rest same =>
      obtain rfl := (List.cons.inj same).2
      rw [skipSpace_to blanks cs blank shown]
      split
      next same => simp at same
      next same => exact absurd (List.cons.inj same).1 opens
      · rfl
    next other => exact absurd rfl (other _)

/-- The items of an array after the first. -/
theorem items {reader : TypedReader α} {encode : α → Json} (depth length : Nat) (as : List α)
    (each : ∀ a ∈ as, Reads reader (prettyChars (depth + 1) (encode a)) a) (bound : Nat)
    (rest : List Char) (counted : as.length < bound)
    (enough : (prettyItems depth (as.map encode)).length + rest.length ≤ length) :
    TypedReader.items reader length false bound (prettyItems depth (as.map encode) ++ rest) =
      .ok (as, rest) := by
  induction as generalizing bound with
  | nil =>
      obtain ⟨bound, rfl⟩ : ∃ b, bound = b + 1 := ⟨bound - 1, by simp at counted; omega⟩
      have last : nextItem false (newLine depth ++ ']' :: rest) = .ok (false, rest) := by
        unfold nextItem
        rw [skipSpace_to _ rest (fun c => isSpace_of_mem_newLine) (by decide)]
        rfl
      simp [prettyItems, TypedReader.items, last]
  | cons a as ih =>
      obtain ⟨bound, rfl⟩ : ∃ b, bound = b + 1 := ⟨bound - 1, by simp at counted; omega⟩
      have reads := each a (List.mem_cons_self ..)
      obtain ⟨c, tail, spelled, shown, opens⟩ := reads.starts
      simp only [List.map_cons, prettyItems, List.length_cons, List.length_append] at enough
      have behind := reads.reads length [] (prettyItems depth (as.map encode) ++ rest) (by simp)
        (by rw [List.length_append]; omega) (closes_prettyItems depth _ rest)
      have next : nextItem false (prettyItems depth ((a :: as).map encode) ++ rest) =
          .ok (true, prettyChars (depth + 1) (encode a) ++
            (prettyItems depth (as.map encode) ++ rest)) := by
        rw [List.map_cons, prettyItems, spelled]
        simp only [List.cons_append, List.append_assoc]
        exact nextItem_comma _ _ (fun c => isSpace_of_mem_newLine) shown opens
      rw [List.nil_append] at behind
      simp only [TypedReader.items, next, behind,
        ih (fun b member => each b (List.mem_cons_of_mem _ member)) bound
          (by simpa using counted) (by omega), Except.map]

theorem list {reader : TypedReader α} {encode : α → Json} (depth : Nat) (as : List α)
    (each : ∀ a ∈ as, Reads reader (prettyChars (depth + 1) (encode a)) a) :
    Reads reader.list (prettyChars depth (.array (as.map encode))) as := by
  cases as with
  | nil =>
      refine ⟨⟨'[', [']'], rfl, by decide, by decide⟩, ?_⟩
      intro length blanks rest blank enough closes
      have last : nextItem true (']' :: rest) = .ok (false, rest) := by
        unfold nextItem
        rw [skipSpace_cons rest (by decide)]
        rfl
      simp [TypedReader.list, prettyChars, head_array length blanks _ blank, TypedReader.items,
        last]
  | cons a as =>
      have reads := each a (List.mem_cons_self ..)
      obtain ⟨c, tail, spelled, shown, opens⟩ := reads.starts
      refine ⟨⟨'[', _, rfl, by decide, by decide⟩, ?_⟩
      intro length blanks rest blank enough closes
      simp only [List.map_cons, prettyChars, List.length_cons, List.length_append] at enough
      have counted := length_lt_prettyItems depth (as.map encode)
      rw [List.length_map] at counted
      have behind := reads.reads length [] (prettyItems depth (as.map encode) ++ rest) (by simp)
        (by rw [List.length_append]; omega) (closes_prettyItems depth _ rest)
      have next : nextItem true (newLine (depth + 1) ++ (prettyChars (depth + 1) (encode a) ++
            (prettyItems depth (as.map encode) ++ rest))) =
          .ok (true, prettyChars (depth + 1) (encode a) ++
            (prettyItems depth (as.map encode) ++ rest)) := by
        rw [spelled]
        exact nextItem_first _ _ (fun c => isSpace_of_mem_newLine) shown opens
      have others := items depth length as (fun b member => each b (List.mem_cons_of_mem _ member))
        length rest (by omega) (by omega)
      have opened : prettyChars depth (.array ((a :: as).map encode)) ++ rest =
          '[' :: (newLine (depth + 1) ++ (prettyChars (depth + 1) (encode a) ++
            (prettyItems depth (as.map encode) ++ rest))) := by
        simp [prettyChars]
      rw [List.nil_append] at behind
      simp only [TypedReader.list, opened, head_array length blanks _ blank, TypedReader.items,
        next, behind, others, Except.map]

end Reads

/-! ## Records -/

/-- That reading members one after the other, with the names of fields met so far, puts what is
written there into a record. -/
inductive Fills {ρ : Type} (fields : List (TypedField ρ)) (depth : Nat) :
    List String → ρ → List (String × Json) → List String → ρ → Prop where
  | done (seen : List String) (r : ρ) : Fills fields depth seen r [] seen r
  | member {seen after : List String} {r next last : ρ} {name : String} {value : Json}
      {rest : List (String × Json)} (field : TypedField ρ)
      (known : fields.find? (·.name == name) = some field) (fresh : seen.contains name = false)
      (reads : Reads (field.assign r) (prettyChars depth value) next)
      (others : Fills fields depth (name :: seen) next rest after last) :
      Fills fields depth seen r ((name, value) :: rest) after last

namespace Fills

variable {ρ α : Type} {fields : List (TypedField ρ)} {depth : Nat} {seen after : List String}
  {r last : ρ} {name : String} {value : Json} {rest : List (String × Json)}
  {reader : TypedReader α} {a : α} {put : α → ρ → ρ}

theorem needed (known : fields.find? (·.name == name) = some (.needed name reader put))
    (fresh : seen.contains name = false) (reads : Reads reader (prettyChars depth value) a)
    (others : Fills fields depth (name :: seen) (put a r) rest after last) :
    Fills fields depth seen r ((name, value) :: rest) after last :=
  .member _ known fresh (reads.mapped fun a => put a r) others

theorem of (known : fields.find? (·.name == name) = some (.of name reader put))
    (fresh : seen.contains name = false) (reads : Reads reader (prettyChars depth value) a)
    (others : Fills fields depth (name :: seen) (put a r) rest after last) :
    Fills fields depth seen r ((name, value) :: rest) after last :=
  .member _ known fresh (reads.mapped fun a => put a r) others

end Fills

namespace Reads

open TypedReader

variable {ρ : Type}

theorem closes_prettyMembers (depth : Nat) (members : List (String × Json)) (rest : List Char) :
    Closes (prettyMembers depth members ++ rest) := by
  intro c first
  cases members with
  | nil =>
      simp [prettyMembers, newLine] at first
      exact .inr first.symm
  | cons member others =>
      simp [prettyMembers] at first
      exact .inl first.symm

theorem length_lt_prettyMembers (depth : Nat) (members : List (String × Json)) :
    members.length < (prettyMembers depth members).length := by
  induction members with
  | nil => simp [prettyMembers]
  | cons member rest ih =>
      simp only [prettyMembers, List.length_cons, List.length_append]
      omega

/-- A known member after its opening quote. -/
theorem memberValue_reads {fields : List (TypedField ρ)} {seen : List String} {r next : ρ}
    {name : String} {value : Json} {depth : Nat} (length : Nat) (rest : List Char)
    (field : TypedField ρ) (known : fields.find? (·.name == name) = some field)
    (fresh : seen.contains name = false)
    (reads : Reads (field.assign r) (prettyChars depth value) next)
    (enough : (prettyChars depth value).length + rest.length ≤ length) (closes : Closes rest) :
    memberValue fields length seen r name (':' :: ' ' :: (prettyChars depth value ++ rest)) =
      .ok ((name :: seen, next), rest) := by
  have behind := reads.reads length [' '] rest (by simp [isSpace]) enough closes
  have opened : colon (':' :: ' ' :: (prettyChars depth value ++ rest)) =
      .ok (' ' :: (prettyChars depth value ++ rest)) := by
    unfold colon
    rw [skipSpace_cons _ (by decide)]
    rfl
  rw [List.singleton_append] at behind
  simp only [memberValue, known, fresh, opened, behind, Bool.false_eq_true, if_false, Except.map]

theorem key_reads (name : String) (length : Nat) (rest : List Char)
    (enough : (textChars name).length ≤ length) :
    key length (name.toList.flatMap escapeChar ++ '"' :: rest) = .ok (name, rest) := by
  have short : name.toList.length < length + 1 := by
    have escaped := length_le_escaped name.toList
    simp only [textChars, List.length_cons, List.length_append] at enough
    omega
  simp only [key, readText_printed name rest _ short]

theorem nextKey_comma (depth : Nat) (cs : List Char) :
    nextKey false (',' :: (newLine depth ++ '"' :: cs)) = .ok (true, cs) := by
  unfold nextKey
  rw [skipSpace_cons _ (by decide)]
  split
  next same => simp at same
  next same => exact absurd (List.cons.inj same).1 (by decide)
  next same => exact absurd (List.cons.inj same).1 (by decide)
  next rest same =>
    obtain rfl := (List.cons.inj same).2
    rw [if_neg (by decide), skipSpace_to _ cs (fun c => isSpace_of_mem_newLine) (by decide)]
    rfl
  next other => exact absurd rfl (other _)

theorem members {fields : List (TypedField ρ)} (depth length : Nat) {seen after : List String}
    {r last : ρ} {ms : List (String × Json)} (fills : Fills fields (depth + 1) seen r ms after last)
    (bound : Nat) (rest : List Char) (counted : ms.length < bound)
    (enough : (prettyMembers depth ms).length + rest.length ≤ length) :
    fillMembers fields length false seen r bound (prettyMembers depth ms ++ rest) =
      .ok ((after, last), rest) := by
  induction fills generalizing bound with
  | done seen r =>
      obtain ⟨bound, rfl⟩ : ∃ b, bound = b + 1 := ⟨bound - 1, by simp at counted; omega⟩
      have last : nextKey false (newLine depth ++ '\x7d' :: rest) = .ok (false, rest) := by
        unfold nextKey
        rw [skipSpace_to _ rest (fun c => isSpace_of_mem_newLine) (by decide)]
        rfl
      simp [prettyMembers, fillMembers, last]
  | @member seen after r next last name value ms field known fresh reads others ih =>
      obtain ⟨bound, rfl⟩ : ∃ b, bound = b + 1 := ⟨bound - 1, by simp at counted; omega⟩
      simp only [prettyMembers, List.length_cons, List.length_append] at enough
      have text := key_reads name length
        (':' :: ' ' :: (prettyChars (depth + 1) value ++ (prettyMembers depth ms ++ rest)))
        (by omega)
      have stored := memberValue_reads length (prettyMembers depth ms ++ rest)
        field known fresh reads (by rw [List.length_append]; omega)
        (closes_prettyMembers depth ms rest)
      have opened : nextKey false (prettyMembers depth ((name, value) :: ms) ++ rest) =
          .ok (true, name.toList.flatMap escapeChar ++ '"' :: ':' :: ' ' ::
            (prettyChars (depth + 1) value ++ (prettyMembers depth ms ++ rest))) := by
        simp only [prettyMembers, textChars, List.cons_append, List.append_assoc, List.nil_append]
        exact nextKey_comma (depth + 1) _
      simp only [fillMembers, opened, text, stored]
      exact ih bound (by simpa using counted) (by omega)

theorem record {fields : List (TypedField ρ)} {name : String} {blank last : ρ} (depth : Nat)
    (seen : List String) {first : String × Json} {ms : List (String × Json)}
    (fills : Fills fields (depth + 1) [] blank (first :: ms) seen last)
    (complete : (fields.find? fun field => field.required && !seen.contains field.name) = none) :
    Reads (TypedReader.record name fields blank) (prettyChars depth (.object (first :: ms)))
      last := by
  obtain ⟨key, value⟩ := first
  refine ⟨⟨'\x7b', _, rfl, by decide, by decide⟩, ?_⟩
  intro length blanks rest spaces enough closes
  cases fills with
  | @member _ _ _ next _ _ _ _ field known fresh reads others =>
      simp only [prettyChars, List.length_cons, List.length_append] at enough
      have counted := length_lt_prettyMembers depth ms
      have text := key_reads key length
        (':' :: ' ' :: (prettyChars (depth + 1) value ++ (prettyMembers depth ms ++ rest)))
        (by omega)
      have stored := memberValue_reads length (prettyMembers depth ms ++ rest)
        field known fresh reads (by rw [List.length_append]; omega)
        (closes_prettyMembers depth ms rest)
      have opened : prettyChars depth (.object ((key, value) :: ms)) ++ rest =
          '\x7b' :: (newLine (depth + 1) ++ '"' :: (key.toList.flatMap escapeChar ++ '"' :: ':' ::
            ' ' :: (prettyChars (depth + 1) value ++ (prettyMembers depth ms ++ rest)))) := by
        simp [prettyChars, textChars]
      have start : nextKey true (newLine (depth + 1) ++ '"' :: (key.toList.flatMap escapeChar ++
            '"' :: ':' :: ' ' :: (prettyChars (depth + 1) value ++
              (prettyMembers depth ms ++ rest)))) =
          .ok (true, key.toList.flatMap escapeChar ++ '"' :: ':' :: ' ' ::
            (prettyChars (depth + 1) value ++ (prettyMembers depth ms ++ rest))) := by
        unfold nextKey
        rw [skipSpace_to _ _ (fun c => isSpace_of_mem_newLine) (by decide)]
        rfl
      have tail := members depth length others length rest (by omega) (by omega)
      simp only [TypedReader.record, opened, head_object length blanks _ spaces, fillMembers, start,
        text, stored, tail, complete]

end Reads

/-- What a reader reads as a value at the depth of a file is read from the whole file. -/
theorem TypedReader.whole_of_reads {α : Type} {reader : TypedReader α} {value : Json} {a : α}
    (reads : Reads reader (prettyChars 0 value) a) :
    reader.whole (value.pretty ++ "\n") = .ok a := by
  have spelled : (value.pretty ++ "\n").toList = prettyChars 0 value ++ ['\n'] := by
    simp [pretty]
  have behind := reads.reads ((prettyChars 0 value ++ ['\n']).length + 1) [] ['\n'] (by simp)
    (by simp) (by simp [Closes])
  have ended : skipSpace ['\n'] = [] := by decide
  rw [List.nil_append] at behind
  simp only [TypedReader.whole, spelled, behind, ended]

end GameScenes.Json
