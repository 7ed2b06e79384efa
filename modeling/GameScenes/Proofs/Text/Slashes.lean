import GameScenes.Text.Slashes

/-!
# Texts and their parts

The parts of a text hold no slash, and with slashes between them they make up the text.  No other
list does both (`splitSlashes_eq_iff`).
-/

set_option autoImplicit false

namespace GameScenes.Text

theorem splitSlashes_append (current before behind : List Char) :
    splitSlashes current (before ++ '/' :: behind) =
      splitSlashes current before ++ splitSlashes [] behind := by
  induction before generalizing current with
  | nil => simp [splitSlashes]
  | cons c cs ih =>
      simp only [List.cons_append, splitSlashes]
      split
      · rw [ih, List.cons_append]
      · exact ih (c :: current)

theorem splitSlashes_of_not_mem (current cs : List Char) (whole : '/' ∉ cs) :
    splitSlashes current cs = [current.reverse ++ cs] := by
  induction cs generalizing current with
  | nil => simp [splitSlashes]
  | cons c cs ih =>
      obtain ⟨apart, rest⟩ : '/' ≠ c ∧ '/' ∉ cs := by simpa using whole
      rw [splitSlashes, if_neg (Ne.symm apart), ih _ rest]
      simp

theorem splitSlashes_ne_nil (current cs : List Char) : splitSlashes current cs ≠ [] := by
  induction cs generalizing current with
  | nil => simp [splitSlashes]
  | cons c cs ih =>
      rw [splitSlashes]
      split
      · simp
      · exact ih (c :: current)

theorem getLast?_splitSlashes_append (current before behind : List Char) :
    (splitSlashes current (before ++ '/' :: behind)).getLast? =
      (splitSlashes [] behind).getLast? := by
  rw [splitSlashes_append, List.getLast?_append,
    List.getLast?_eq_some_getLast (splitSlashes_ne_nil [] behind)]
  rfl

theorem not_mem_of_mem_splitSlashes (current cs : List Char) (apart : '/' ∉ current)
    {part : List Char} (member : part ∈ splitSlashes current cs) : '/' ∉ part := by
  induction cs generalizing current with
  | nil =>
      rw [splitSlashes, List.mem_singleton] at member
      rw [member, List.mem_reverse]
      exact apart
  | cons c cs ih =>
      rw [splitSlashes] at member
      split at member
      · rcases List.mem_cons.mp member with rfl | later
        · rwa [List.mem_reverse]
        · exact ih [] (by simp) later
      next other => exact ih (c :: current) (by simpa [apart] using Ne.symm other) member

/-- The parts hold no characters but those of the text. -/
theorem mem_of_mem_splitSlashes (current cs : List Char) {part : List Char} {c : Char}
    (member : part ∈ splitSlashes current cs) (inside : c ∈ part) : c ∈ current ∨ c ∈ cs := by
  induction cs generalizing current with
  | nil =>
      rw [splitSlashes, List.mem_singleton] at member
      rw [member, List.mem_reverse] at inside
      exact .inl inside
  | cons d cs ih =>
      rw [splitSlashes] at member
      split at member
      · rcases List.mem_cons.mp member with rfl | later
        · exact .inl (List.mem_reverse.mp inside)
        · rcases ih [] later with none | further
          · cases none
          · exact .inr (List.mem_cons_of_mem d further)
      · rcases ih (d :: current) member with early | further
        · rcases List.mem_cons.mp early with rfl | before
          · exact .inr (List.mem_cons_self ..)
          · exact .inl before
        · exact .inr (List.mem_cons_of_mem d further)

theorem intercalate_slash_cons (part : List Char) {rest : List (List Char)} (more : rest ≠ []) :
    List.intercalate ['/'] (part :: rest) = part ++ '/' :: List.intercalate ['/'] rest := by
  obtain ⟨next, others, rfl⟩ := List.exists_cons_of_ne_nil more
  simp [List.intercalate]

theorem intercalate_slash_concat {front : List (List Char)} (filled : front ≠ [])
    (last : List Char) :
    List.intercalate ['/'] (front ++ [last]) = List.intercalate ['/'] front ++ '/' :: last := by
  induction front with
  | nil => exact absurd rfl filled
  | cons part rest ih =>
      rw [List.cons_append, intercalate_slash_cons part (by simp)]
      cases rest with
      | nil => simp
      | cons next others =>
          rw [ih (List.cons_ne_nil next others),
            intercalate_slash_cons part (List.cons_ne_nil next others), List.append_assoc,
            List.cons_append]

theorem mem_intercalate_slash {parts : List (List Char)} {c : Char}
    (inside : c ∈ List.intercalate ['/'] parts) : c = '/' ∨ ∃ part ∈ parts, c ∈ part := by
  induction parts with
  | nil => cases inside
  | cons part rest ih =>
      cases rest with
      | nil => exact .inr ⟨part, List.mem_cons_self .., by simpa using inside⟩
      | cons next others =>
          rw [intercalate_slash_cons part (List.cons_ne_nil next others), List.mem_append,
            List.mem_cons] at inside
          rcases inside with own | rfl | later
          · exact .inr ⟨part, List.mem_cons_self .., own⟩
          · exact .inl rfl
          · rcases ih later with slash | ⟨other, member, further⟩
            · exact .inl slash
            · exact .inr ⟨other, List.mem_cons_of_mem _ member, further⟩

theorem splitSlashes_intercalate (parts : List (List Char)) (filled : parts ≠ [])
    (whole : ∀ part ∈ parts, '/' ∉ part) :
    splitSlashes [] (List.intercalate ['/'] parts) = parts := by
  induction parts with
  | nil => exact absurd rfl filled
  | cons part rest ih =>
      have own := whole part (List.mem_cons_self ..)
      cases rest with
      | nil => simpa using splitSlashes_of_not_mem [] part own
      | cons next others =>
          have later := ih (List.cons_ne_nil _ _)
            fun part member => whole part (List.mem_cons_of_mem _ member)
          rw [intercalate_slash_cons part (List.cons_ne_nil _ _), splitSlashes_append, later,
            splitSlashes_of_not_mem [] part own]
          simp

theorem intercalate_splitSlashes (current cs : List Char) :
    List.intercalate ['/'] (splitSlashes current cs) = current.reverse ++ cs := by
  induction cs generalizing current with
  | nil => simp [splitSlashes]
  | cons c cs ih =>
      rw [splitSlashes]
      split
      next slash =>
          rw [intercalate_slash_cons _ (splitSlashes_ne_nil [] cs), ih [], slash]
          rfl
      next => simp [ih (c :: current)]

/-- The parts of a text are the only ones without slashes that make it up. -/
theorem splitSlashes_eq_iff (cs : List Char) {parts : List (List Char)} :
    splitSlashes [] cs = parts ↔
      parts ≠ [] ∧ (∀ part ∈ parts, '/' ∉ part) ∧ List.intercalate ['/'] parts = cs := by
  constructor
  · rintro rfl
    exact ⟨splitSlashes_ne_nil [] cs, fun _ => not_mem_of_mem_splitSlashes [] cs (by simp),
      intercalate_splitSlashes [] cs⟩
  · rintro ⟨filled, whole, rfl⟩
    exact splitSlashes_intercalate parts filled whole

end GameScenes.Text
