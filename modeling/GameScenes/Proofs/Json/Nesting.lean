import GameScenes.Proofs.Json.Ceiling

/-!
# Nesting

A text spells a value when it is Json for the value, however deeply containers lie in one another.
Such a text is read exactly when no more than `nestingLimit` of them are open at once
(`readWhole_none_iff`).
-/

set_option autoImplicit false

namespace GameScenes.Json

/-- That at most `limit` containers of a value are open at once. -/
def OpensAtMost (limit : Nat) (j : Json) : Prop :=
  ∀ path container, Leads j path container → container.isContainer = true → path.length < limit

/-- That a text is Json for a value. -/
def Spells (cs : List Char) (written : Json) : Prop :=
  ∃ room rest, readValue none (cs.length + 1) room [] cs = .ok (written, rest) ∧
    skipSpace rest = []

/-! ## Containers that are open -/

section
variable {limit : Nat}

theorem OpensAtMost.mono {more : Nat} {j : Json} (few : j.OpensAtMost limit)
    (le : limit ≤ more) : j.OpensAtMost more :=
  fun path container leads opened => Nat.lt_of_lt_of_le (few path container leads opened) le

theorem OpensAtMost.of_plain {j : Json} (plain : j.isContainer = false) : j.OpensAtMost limit := by
  intro path container leads opened
  cases leads with
  | here =>
      rw [plain] at opened
      cases opened
  | item => cases plain
  | member => cases plain

theorem opensAtMost_array_iff (items : List Json) :
    (Json.array items).OpensAtMost (limit + 1) ↔ ∀ item ∈ items, item.OpensAtMost limit := by
  constructor
  · intro few item member path container leads opened
    obtain ⟨k, found⟩ := List.getElem?_of_mem member
    exact Nat.lt_of_succ_lt_succ (few _ container (.item found leads) opened)
  · intro each path container leads opened
    cases leads with
    | here => exact Nat.zero_lt_succ limit
    | item found leads =>
        exact Nat.succ_lt_succ (each _ (List.mem_of_getElem? found) _ container leads opened)

theorem opensAtMost_object_iff (members : List (String × Json)) :
    (Json.object members).OpensAtMost (limit + 1) ↔
      ∀ member ∈ members, member.2.OpensAtMost limit := by
  constructor
  · intro few member among path container leads opened
    exact Nat.lt_of_succ_lt_succ (few _ container (.member among leads) opened)
  · intro each path container leads opened
    cases leads with
    | here => exact Nat.zero_lt_succ limit
    | member found leads => exact Nat.succ_lt_succ (each _ found _ container leads opened)

/-- Where a container may be opened, some number of containers is allowed. -/
theorem OpensAtMost.pos {j : Json} (few : j.OpensAtMost limit) (opened : j.isContainer = true) :
    ∃ fewer, limit = fewer + 1 :=
  Nat.exists_eq_add_one.mpr (few [] j (.here j) opened)

end

/-! ## Reading with more or less room -/

section
variable {readEntry : List Step → List Char → BoundedReading Json} {path : List Step}
  {count bound length : Nat} {cs rest : List Char}

theorem readItems_again (again : List Step → List Char → BoundedReading Json) (path' : List Step)
    {done items : List Json}
    (h : readItems none readEntry path count done bound cs = .ok (items, rest))
    (entry : ∀ path path' cs item rest, item ∈ items → readEntry path cs = .ok (item, rest) →
      again path' cs = .ok (item, rest)) :
    readItems none again path' count done bound cs = .ok (items, rest) := by
  induction bound generalizing count done cs with
  | zero => cases h
  | succ bound ih =>
      obtain ⟨item, after, others, read, all⟩ := readItems_prefix h
      have among : item ∈ items := by simp [all]
      unfold readItems at h ⊢
      rw [read] at h
      rw [entry _ (.index count :: path') _ _ _ among read]
      simp only [beyond_none, Bool.false_eq_true, if_false] at h ⊢
      split at h
      · cases h
      · exact h
      · split at h
        · cases h
        · cases h
        · exact ih h
      · cases h

theorem readMembers_again (again : List Step → List Char → BoundedReading Json)
    (path' : List Step) {done members : List (String × Json)}
    (h : readMembers none length readEntry path count done bound cs = .ok (members, rest))
    (entry : ∀ path path' cs key value rest, (key, value) ∈ members →
      readEntry path cs = .ok (value, rest) → again path' cs = .ok (value, rest)) :
    readMembers none length again path' count done bound cs = .ok (members, rest) := by
  induction bound generalizing count done cs with
  | zero => cases h
  | succ bound ih =>
      obtain ⟨quoted, key, behind, after, value, tail, others, rfl, text, colon, read, all⟩ :=
        readMembers_prefix h
      have among : (key, value) ∈ members := by simp [all]
      unfold readMembers at h ⊢
      simp only [text, colon, read, beyond_none, Bool.false_eq_true, if_false] at h
      simp only [text, colon, entry _ (.key key :: path') _ _ _ _ among read, beyond_none,
        Bool.false_eq_true, if_false]
      split at h
      · cases h
      · exact h
      · split at h
        · cases h
        · cases h
        · exact ih h
      · cases h

theorem readItems_each {ceiling : Option Nat} {holds : Json → Prop} {done items : List Json}
    (h : readItems ceiling readEntry path count done bound cs = .ok (items, rest))
    (entry : ∀ path cs item rest, readEntry path cs = .ok (item, rest) → holds item)
    (before : ∀ item ∈ done, holds item) : ∀ item ∈ items, holds item := by
  induction bound generalizing count done cs with
  | zero => cases h
  | succ bound ih =>
      obtain ⟨item, after, read, -, last⟩ := readItems_ok h
      have all : ∀ other ∈ item :: done, holds other := by
        intro other member
        rcases List.mem_cons.mp member with rfl | early
        · exact entry _ _ _ _ read
        · exact before other early
      rcases last with ⟨-, rfl⟩ | ⟨more, fewer, -, same, further⟩
      · exact fun other member => all other (List.mem_reverse.mp member)
      · cases same
        exact ih further all

theorem readMembers_each {ceiling : Option Nat} {holds : Json → Prop}
    {done members : List (String × Json)}
    (h : readMembers ceiling length readEntry path count done bound cs = .ok (members, rest))
    (entry : ∀ path cs value rest, readEntry path cs = .ok (value, rest) → holds value)
    (before : ∀ member ∈ done, holds member.2) : ∀ member ∈ members, holds member.2 := by
  induction bound generalizing count done cs with
  | zero => cases h
  | succ bound ih =>
      obtain ⟨quoted, key, behind, after, value, tail, -, -, -, -, read, last⟩ := readMembers_ok h
      have all : ∀ other ∈ (key, value) :: done, holds other.2 := by
        intro other member
        rcases List.mem_cons.mp member with rfl | early
        · exact entry _ _ _ _ read
        · exact before other early
      rcases last with ⟨-, rfl⟩ | ⟨more, fewer, -, same, further⟩
      · exact fun other member => all other (List.mem_reverse.mp member)
      · cases same
        exact ih further all

end

section
variable {length room : Nat} {path : List Step} {cs rest : List Char} {value : Json}

/-- Each container that is open takes room. -/
theorem readValue_opensAtMost (h : readValue none length room path cs = .ok (value, rest)) :
    value.OpensAtMost room := by
  induction room generalizing path cs rest value with
  | zero =>
      rcases readValue_ok h with ⟨plain, -⟩ | ⟨fewer, tail, same, -⟩
      · exact .of_plain plain
      · cases same
  | succ room ih =>
      rcases readValue_ok h with ⟨plain, -⟩ | ⟨fewer, tail, same,
        ⟨items, -, rfl, ⟨rfl, -⟩ | read⟩ | ⟨members, -, rfl, ⟨rfl, -⟩ | read⟩⟩
      · exact .of_plain plain
      · exact (opensAtMost_array_iff []).mpr (by simp)
      · cases same
        exact (opensAtMost_array_iff items).mpr
          (readItems_each read (fun _ _ _ _ first => ih first) (by simp))
      · exact (opensAtMost_object_iff []).mpr (by simp)
      · cases same
        exact (opensAtMost_object_iff members).mpr
          (readMembers_each read (fun _ _ _ _ first => ih first) (by simp))

/-- A value is read alike wherever there is room for its containers. -/
theorem readValue_again {room' : Nat} (path' : List Step)
    (h : readValue none length room path cs = .ok (value, rest)) (few : value.OpensAtMost room') :
    readValue none length room' path' cs = .ok (value, rest) := by
  induction room generalizing path path' room' cs rest value with
  | zero =>
      unfold readValue at h ⊢
      split at h
      case h_2 => cases h
      case h_3 => cases h
      all_goals exact h
  | succ room ih =>
      unfold readValue at h ⊢
      split at h
      case h_2 tail opens =>
        dsimp only at h
        split at h
        · cases h
        · cases h
          obtain ⟨fewer, rfl⟩ := few.pos rfl
          rfl
        · split at h
          · cases h
          next items after read =>
            cases h
            obtain ⟨fewer, rfl⟩ := few.pos rfl
            have each := (opensAtMost_array_iff items).mp few
            have further := readItems_again (readValue none length fewer) path' read
              fun path path' cs item rest among first => ih path' first (each item among)
            dsimp only
            rw [further]
      case h_3 tail opens =>
        dsimp only at h
        split at h
        · cases h
        · cases h
          obtain ⟨fewer, rfl⟩ := few.pos rfl
          rfl
        · split at h
          · cases h
          next members after read =>
            cases h
            obtain ⟨fewer, rfl⟩ := few.pos rfl
            have each := (opensAtMost_object_iff members).mp few
            have further := readMembers_again (readValue none length fewer) path' read
              fun path path' cs key value rest among first => ih path' first (each _ among)
            dsimp only
            rw [further]
      all_goals exact h

end

/-! ## Whole texts -/

/-- A text is read exactly when it is Json and no more containers are open at once than there may
be. -/
theorem readWhole_none_iff (cs : List Char) (written : Json) :
    readWhole none cs = .ok written ↔ Spells cs written ∧ written.OpensAtMost nestingLimit := by
  constructor
  · intro h
    unfold readWhole at h
    split at h
    · cases h
    next rest read =>
      split at h
      next ends =>
        cases h
        exact ⟨⟨nestingLimit, rest, read, ends⟩, readValue_opensAtMost read⟩
      · cases h
  · rintro ⟨⟨room, rest, read, ends⟩, few⟩
    unfold readWhole
    rw [readValue_again [] read few]
    dsimp only
    rw [ends]

/-- A text is Json for one value only. -/
theorem Spells.unique {cs : List Char} {a b : Json} (first : Spells cs a) (second : Spells cs b) :
    a = b := by
  obtain ⟨room, rest, read, -⟩ := first
  obtain ⟨more, tail, again, -⟩ := second
  have few := (readValue_opensAtMost read).mono (Nat.le_add_right room more)
  have fewAgain := (readValue_opensAtMost again).mono (Nat.le_add_left more room)
  have same := (readValue_again [] read few).symm.trans (readValue_again [] again fewAgain)
  exact (Prod.mk.inj (Except.ok.inj same)).1

end GameScenes.Json
