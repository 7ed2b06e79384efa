import GameScenes.Text.Blank
import GameScenes.Text.Case
import Mathlib.Data.List.DropRight
import Mathlib.Data.List.Infix
import Mathlib.Data.List.TakeWhile

/-!
# Trimmed texts and parts of texts

Trimming twice is trimming once, and whether a text has blanks at its ends does not depend on the
case of its letters.  A text mentions another one exactly if the other one is an unbroken part of
it, and where the text is made small before, the part may have any letters (`mentions_lower_iff`).
-/

set_option autoImplicit false

namespace GameScenes.Text

theorem dropBlankEnd_eq (cs : List Char) : dropBlankEnd cs = cs.rdropWhile isBlank := rfl

theorem trimChars_sublist (cs : List Char) : (trimChars cs).Sublist cs :=
  (List.rdropWhile_prefix isBlank _).sublist.trans (List.dropWhile_sublist isBlank)

theorem trimChars_trimChars (cs : List Char) : trimChars (trimChars cs) = trimChars cs := by
  have front : (trimChars cs).dropWhile isBlank = trimChars cs := by
    rw [List.dropWhile_eq_self_iff]
    intro nonempty blank
    have kept := List.rdropWhile_prefix isBlank (cs.dropWhile isBlank)
    have inside : 0 < (cs.dropWhile isBlank).length := nonempty.trans_le kept.length_le
    have same : (trimChars cs)[0] = (cs.dropWhile isBlank)[0] := kept.getElem nonempty
    have first := List.dropWhile_get_zero_not isBlank cs inside
    rw [List.get_eq_getElem] at first
    exact first (same ▸ blank)
  rw [trimChars, front, dropBlankEnd_eq, trimChars, dropBlankEnd_eq]
  exact List.rdropWhile_idempotent isBlank _

theorem trim_trim (s : String) : trim (trim s) = trim s := by
  rw [trim, trim, String.toList_ofList, trimChars_trimChars]

/-- That a text ends in a blank. -/
def EndsBlank (s : String) : Prop := ∃ c, s.toList.getLast? = some c ∧ isBlank c = true

instance (s : String) : Decidable (EndsBlank s) :=
  decidable_of_iff (s.toList.getLast?.any isBlank = true) (Option.any_eq_true ..)

theorem dropBlankEnd_eq_self_iff (cs : List Char) :
    dropBlankEnd cs = cs ↔ ¬ EndsBlank (String.ofList cs) := by
  rw [dropBlankEnd_eq, List.rdropWhile_eq_self_iff, EndsBlank, String.toList_ofList]
  simp only [List.getLast?_eq_some_iff, not_exists, not_and, forall_exists_index]
  constructor
  · rintro kept c before rfl
    simpa using kept (by simp)
  · intro kept filled
    exact kept _ cs.dropLast (List.dropLast_concat_getLast filled).symm

/-- Trimming leaves a text alone that has no blanks at its ends. -/
theorem trimChars_eq_self_iff (cs : List Char) :
    trimChars cs = cs ↔ (∀ c, cs.head? = some c → isBlank c = false) ∧
      ∀ c, cs.getLast? = some c → isBlank c = false := by
  have front : cs.dropWhile isBlank = cs ↔ ∀ c, cs.head? = some c → isBlank c = false := by
    rw [List.dropWhile_eq_self_iff]
    cases cs <;> simp
  have back : dropBlankEnd cs = cs ↔ ∀ c, cs.getLast? = some c → isBlank c = false := by
    rw [dropBlankEnd_eq_self_iff]
    simp [EndsBlank]
  rw [← front, ← back]
  constructor
  · intro trimmed
    have whole : cs.dropWhile isBlank = cs := by
      refine (List.dropWhile_sublist isBlank).eq_of_length_le ?_
      have shorter := (List.rdropWhile_prefix isBlank (cs.dropWhile isBlank)).length_le
      rwa [← dropBlankEnd_eq, ← trimChars, trimmed] at shorter
    refine ⟨whole, ?_⟩
    rwa [trimChars, whole] at trimmed
  · rintro ⟨whole, kept⟩
    rw [trimChars, whole, kept]

theorem dropBlankEnd_subset (cs : List Char) : dropBlankEnd cs ⊆ cs := by
  rw [dropBlankEnd_eq]
  exact (List.rdropWhile_prefix isBlank cs).subset

/-- Blanks at the end reach back at most to the last character that is not blank. -/
theorem dropBlankEnd_append {c : Char} (mark : isBlank c = false) (before behind : List Char) :
    dropBlankEnd (before ++ c :: behind) = before ++ c :: dropBlankEnd behind := by
  have stop : (c :: before.reverse).dropWhile isBlank = c :: before.reverse := by
    rw [List.dropWhile_cons, mark]
    rfl
  unfold dropBlankEnd
  rw [List.reverse_append, List.reverse_cons, List.append_assoc, List.singleton_append,
    List.dropWhile_append, stop]
  split
  next all =>
    rw [List.isEmpty_iff.mp all]
    simp
  · simp

theorem trimChars_cons {c : Char} (mark : isBlank c = false) (cs : List Char) :
    trimChars (c :: cs) = dropBlankEnd (c :: cs) := by
  rw [trimChars, List.dropWhile_cons, mark]
  rfl

/-! ## Case -/

theorem lowerChar_cases (c : Char) :
    lowerChar c = c ∨
      (65 ≤ c.toNat ∧ c.toNat ≤ 90 ∧ (lowerChar c).toNat = c.toNat + 32) := by
  unfold lowerChar
  split
  next capital =>
    have least : 65 ≤ c.toNat := capital.1
    have greatest : c.toNat ≤ 90 := capital.2
    refine .inr ⟨least, greatest, ?_⟩
    have valid : (c.toNat + 32).isValidChar := Or.inl (by omega)
    rw [Char.ofNat, dif_pos valid]
    rfl
  · exact .inl rfl

theorem isBlank_lowerChar (c : Char) : isBlank (lowerChar c) = isBlank c := by
  rcases lowerChar_cases c with same | ⟨least, greatest, small⟩
  · rw [same]
  · simp only [isBlank, small]
    grind

theorem lowerChar_eq_colon_iff (c : Char) : lowerChar c = ':' ↔ c = ':' := by
  rcases lowerChar_cases c with same | ⟨least, greatest, small⟩
  · rw [same]
  · constructor <;> intro colon
    · rw [colon] at small
      have : (':' : Char).toNat = 58 := rfl
      omega
    · rw [colon] at least
      have : (':' : Char).toNat = 58 := rfl
      omega

theorem trimChars_map_lowerChar (cs : List Char) :
    trimChars (cs.map lowerChar) = (trimChars cs).map lowerChar := by
  have seen : isBlank ∘ lowerChar = isBlank := funext isBlank_lowerChar
  simp only [trimChars, dropBlankEnd, List.dropWhile_map, ← List.map_reverse, seen]

theorem sameLetters_iff {s t : String} :
    sameLetters s t = true ↔ s.toList.map lowerChar = t.toList.map lowerChar := by
  rw [sameLetters, beq_iff_eq]

@[simp] theorem sameLetters_self (s : String) : sameLetters s s = true :=
  sameLetters_iff.mpr rfl

/-- A text without blanks at its ends has none in other letters either. -/
theorem trim_of_sameLetters {s t : String} (same : sameLetters s t = true) (trimmed : trim t = t) :
    trim s = s := by
  have letters := sameLetters_iff.mp same
  have whole : trimChars t.toList = t.toList := by
    rw [← String.toList_ofList (l := trimChars t.toList)]
    exact congrArg String.toList trimmed
  have lengths : (trimChars s.toList).length = s.toList.length := by
    rw [← List.length_map (f := lowerChar), ← trimChars_map_lowerChar, letters,
      trimChars_map_lowerChar, whole, ← letters, List.length_map]
  rw [trim, (trimChars_sublist s.toList).eq_of_length lengths, String.ofList_toList]

/-- What an occurrence of colons is does not depend on the case of letters. -/
theorem occursIn_colons_map_lowerChar (cs : List Char) :
    occursIn [':', ':'] (cs.map lowerChar) = occursIn [':', ':'] cs := by
  induction cs with
  | nil => rfl
  | cons c rest ih =>
      have colon : ∀ d : Char, (':' == lowerChar d) = (':' == d) := by
        intro d
        rw [Bool.eq_iff_iff, beq_iff_eq, beq_iff_eq, eq_comm, lowerChar_eq_colon_iff, eq_comm]
      rw [List.map_cons, occursIn, occursIn, ih]
      cases rest <;> simp only [List.map_nil, List.map_cons, List.isPrefixOf, colon]

theorem mentions_colons_of_sameLetters {s t : String} (same : sameLetters s t = true) :
    mentions s "::" = mentions t "::" := by
  have letters := sameLetters_iff.mp same
  have colons : "::".toList = [':', ':'] := rfl
  rw [mentions, mentions, colons, ← occursIn_colons_map_lowerChar, letters,
    occursIn_colons_map_lowerChar]

/-! ## Parts of texts -/

theorem occursIn_iff_infix {part cs : List Char} : occursIn part cs = true ↔ part <:+: cs := by
  induction cs with
  | nil => rw [occursIn, List.isEmpty_iff, List.infix_nil]
  | cons c rest ih =>
      rw [occursIn, Bool.or_eq_true, List.isPrefixOf_iff_prefix, ih, List.infix_cons_iff]

theorem occursIn_append (part before after : List Char) :
    occursIn part (before ++ (part ++ after)) = true :=
  occursIn_iff_infix.mpr ⟨before, after, List.append_assoc ..⟩

/-- That a text has a part that differs at most in the case of its letters from a given one. -/
def HasPart (s part : String) : Prop :=
  ∃ before inner after, s = before ++ inner ++ after ∧ sameLetters inner part = true

theorem mentions_lower_iff {s part : String} (small : part.toList.map lowerChar = part.toList) :
    mentions (lower s) part = true ↔ HasPart s part := by
  rw [mentions, occursIn_iff_infix, lower, String.toList_ofList]
  constructor
  · rintro ⟨before, after, whole⟩
    obtain ⟨front, back, split, first, rfl⟩ := List.map_eq_append_iff.mp whole.symm
    obtain ⟨start, inner, rfl, rfl, middle⟩ := List.map_eq_append_iff.mp first
    refine ⟨.ofList start, .ofList inner, .ofList back, ?_, ?_⟩
    · rw [← String.toList_inj, split]
      simp
    · rw [sameLetters_iff, String.toList_ofList, middle, small]
  · rintro ⟨before, inner, after, rfl, alike⟩
    refine ⟨before.toList.map lowerChar, after.toList.map lowerChar, ?_⟩
    rw [String.toList_append, String.toList_append, List.map_append, List.map_append,
      sameLetters_iff.mp alike, small]

end GameScenes.Text
