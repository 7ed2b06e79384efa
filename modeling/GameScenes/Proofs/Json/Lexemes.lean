import GameScenes.Json.Lexeme
import GameScenes.Json.Printer

/-!
# Lexemes read back

A text between its quotes and a whole number, as they are printed, are read as what they were
printed from.
-/

set_option autoImplicit false

namespace GameScenes

/-! ## Texts -/

namespace Json

theorem hexDigit?_hexDigit : ∀ n, n < 16 → hexDigit? (hexDigit n) = some n := by decide

theorem readCodeUnits_control (c : Char) (control : c.toNat < 0x20) (rest : List Char) :
    readCodeUnits ('0' :: '0' :: hexDigit (c.toNat / 16) :: hexDigit (c.toNat % 16) :: rest) =
      .ok (c, rest) := by
  have zero : hexDigit? '0' = some 0 := by decide
  have high := hexDigit?_hexDigit (c.toNat / 16) (by omega)
  have low := hexDigit?_hexDigit (c.toNat % 16) (by omega)
  have whole : ((0 * 16 + 0) * 16 + c.toNat / 16) * 16 + c.toNat % 16 = c.toNat := by omega
  simp only [readCodeUnits, readUnit, zero, high, low, whole]
  rw [if_neg (by omega), if_neg (by omega), Char.ofNat_toNat]

/-- A character stands for itself or makes an escape that is read as this character. -/
theorem escapeChar_cases (c : Char) :
    (escapeChar c = [c] ∧ c ≠ '"' ∧ c ≠ '\\' ∧ ¬ c.toNat < 0x20) ∨
      ∃ tail, escapeChar c = '\\' :: tail ∧
        ∀ rest, readEscape (tail ++ rest) = .ok (c, rest) := by
  unfold escapeChar
  split
  · exact .inr ⟨['"'], rfl, fun rest => rfl⟩
  · exact .inr ⟨['\\'], rfl, fun rest => rfl⟩
  · exact .inr ⟨['b'], rfl, fun rest => rfl⟩
  · exact .inr ⟨['f'], rfl, fun rest => rfl⟩
  · exact .inr ⟨['n'], rfl, fun rest => rfl⟩
  · exact .inr ⟨['r'], rfl, fun rest => rfl⟩
  · exact .inr ⟨['t'], rfl, fun rest => rfl⟩
  next notQuote notSlash _ _ _ _ _ =>
    split
    next control => exact .inr ⟨_, rfl, fun rest => readCodeUnits_control c control rest⟩
    next printed => exact .inl ⟨rfl, notQuote, notSlash, printed⟩

theorem length_le_escaped (cs : List Char) : cs.length ≤ (cs.flatMap escapeChar).length := by
  induction cs with
  | nil => simp
  | cons c cs ih =>
      have one : 1 ≤ (escapeChar c).length := by
        rcases escapeChar_cases c with ⟨plain, -⟩ | ⟨tail, escaped, -⟩
        · simp [plain]
        · simp [escaped]
      rw [List.flatMap_cons, List.length_append, List.length_cons]
      omega

theorem readCharacters_escaped (done cs rest : List Char) (bound : Nat)
    (enough : cs.length < bound) :
    readCharacters done bound (cs.flatMap escapeChar ++ '"' :: rest) =
      .ok (done.reverse ++ cs, rest) := by
  induction cs generalizing done bound with
  | nil =>
      obtain ⟨bound, rfl⟩ : ∃ b, bound = b + 1 := ⟨bound - 1, by simp at enough; omega⟩
      simp [readCharacters]
  | cons c cs ih =>
      obtain ⟨bound, rfl⟩ : ∃ b, bound = b + 1 := ⟨bound - 1, by simp at enough; omega⟩
      have shorter : cs.length < bound := by simpa using enough
      rw [List.flatMap_cons, List.append_assoc]
      rcases escapeChar_cases c with ⟨plain, notQuote, notSlash, printed⟩ | ⟨tail, escaped, read⟩
      · rw [plain, List.singleton_append, readCharacters, if_neg notQuote, if_neg notSlash,
          if_neg printed, ih _ _ shorter]
        simp
      · rw [escaped, List.cons_append, readCharacters, if_neg (by decide), if_pos rfl, read]
        simp only
        rw [ih _ _ shorter]
        simp

/-- A printed text, after its opening quote, is read as the text. -/
theorem readText_printed (s : String) (rest : List Char) (bound : Nat)
    (enough : s.toList.length < bound) :
    readText bound (s.toList.flatMap escapeChar ++ '"' :: rest) = .ok (s, rest) := by
  simp [readText, readCharacters_escaped [] s.toList rest bound enough]

end Json

/-! ## Whole numbers -/

namespace Number

theorem isDigit_of_mem_digitsOf {n : Nat} {c : Char} (member : c ∈ digitsOf n) :
    isDigit c = true := by
  have digit := Nat.isDigit_of_mem_toDigits (by decide) (by decide) member
  simp only [Char.isDigit, ge_iff_le, Bool.and_eq_true, decide_eq_true_eq] at digit
  have range : '0' ≤ c ∧ c ≤ '9' := digit
  simp [isDigit, digit?, range]

theorem natOfDigits_digitsOf (n : Nat) : natOfDigits 0 (digitsOf n) = n := by
  have same : natOfDigits 0 (digitsOf n) = Nat.ofDigitChars 10 (digitsOf n) 0 := by
    unfold natOfDigits Nat.ofDigitChars
    congr
    funext value c
    rw [Nat.mul_comm]
    rfl
  rw [same]
  exact Nat.ofDigitChars_ten_toDigits

/-- That no digit stands in front. -/
def NoDigit (cs : List Char) : Prop := ∀ c ∈ cs.head?, isDigit c = false

theorem takeWhile_digits {ds rest : List Char} (digits : ds.all isDigit = true)
    (stops : NoDigit rest) :
    (ds ++ rest).takeWhile isDigit = ds ∧ (ds ++ rest).dropWhile isDigit = rest := by
  rw [List.all_eq_true] at digits
  rw [List.takeWhile_append_of_pos digits, List.dropWhile_append_of_pos digits]
  cases rest with
  | nil => simp
  | cons c cs => simp [List.takeWhile, List.dropWhile, stops c rfl]

theorem le_natOfDigits (start : Nat) (cs : List Char) : start ≤ natOfDigits start cs := by
  induction cs generalizing start with
  | nil => exact Nat.le_refl start
  | cons c cs ih =>
      have grown := ih (start * 10 + (c.toNat - 48))
      have step : natOfDigits start (c :: cs) = natOfDigits (start * 10 + (c.toNat - 48)) cs := rfl
      omega

/-- A numeral of a number that is not zero starts with another digit. -/
theorem head_digitsOf_ne_zero (n : Nat) (positive : 0 < n) :
    ∃ c cs, digitsOf n = c :: cs ∧ c ≠ '0' := by
  induction n using Nat.strongRecOn with
  | ind n ih =>
      unfold digitsOf
      rw [Nat.toDigits_eq_if (by decide)]
      split
      next small =>
        refine ⟨_, [], rfl, ?_⟩
        have all : ∀ m, m < 10 → 0 < m → Nat.digitChar m ≠ '0' := by decide
        exact all n small positive
      next large =>
        obtain ⟨c, cs, digits, other⟩ := ih (n / 10) (by omega) (by omega)
        unfold digitsOf at digits
        rw [digits]
        exact ⟨c, _, rfl, other⟩

end Number

namespace Json

open Number (isDigit digitsOf natOfDigits)

/-- What may stand behind a value in a file: nothing, a comma or the end of the line. -/
def Closes (rest : List Char) : Prop := ∀ c, rest.head? = some c → c = ',' ∨ c = '\n'

theorem foldl_pushWhole (value : Nat) (cs : List Char)
    (small : natOfDigits value cs ≤ maxSignificand) :
    cs.foldl Significand.pushWhole ⟨value, 0⟩ = ⟨natOfDigits value cs, 0⟩ := by
  induction cs generalizing value with
  | nil => rfl
  | cons c cs ih =>
      have step : natOfDigits value (c :: cs) = natOfDigits (value * 10 + (c.toNat - 48)) cs := rfl
      rw [step] at small ⊢
      have fits := Number.le_natOfDigits (value * 10 + (c.toNat - 48)) cs
      have pushed : Significand.pushWhole ⟨value, 0⟩ c = ⟨value * 10 + (c.toNat - 48), 0⟩ := by
        simp only [Significand.pushWhole]
        rw [if_pos ⟨trivial, Nat.le_trans fits small⟩]
      rw [List.foldl_cons, pushed]
      exact ih _ small

theorem Closes.noDigit {rest : List Char} (closes : Closes rest) : Number.NoDigit rest := by
  intro c member
  rcases closes c member with rfl | rfl <;> decide

theorem takeWhile_digitsOf (n : Nat) {rest : List Char} (closes : Closes rest) :
    (digitsOf n ++ rest).takeWhile isDigit = digitsOf n ∧
      (digitsOf n ++ rest).dropWhile isDigit = rest :=
  Number.takeWhile_digits (List.all_eq_true.mpr fun _ => Number.isDigit_of_mem_digitsOf)
    closes.noDigit

theorem readNumeralEnd_closes (n : Nat) {rest : List Char} (closes : Closes rest) :
    readNumeralEnd ⟨n, 0⟩ false rest = .ok (.int n, rest) := by
  unfold readNumeralEnd
  split
  · have := closes '.' rfl
    simp at this
  · have := closes 'e' rfl
    simp at this
  · have := closes 'E' rfl
    simp at this
  · simp [wholeNumber]

/-- A printed number is read as the number. -/
theorem readNumeral_digitsOf (n : Nat) (small : n ≤ maxSignificand) {rest : List Char}
    (closes : Closes rest) :
    readNumeral false (digitsOf n ++ rest) = .ok (.int n, rest) := by
  rcases Nat.eq_zero_or_pos n with rfl | positive
  · have zero : digitsOf 0 = ['0'] := by decide
    rw [zero, List.singleton_append]
    cases rest with
    | nil => exact readNumeralEnd_closes 0 closes
    | cons c cs =>
        have stops : isDigit c = false := by
          rcases closes c rfl with rfl | rfl <;> decide
        simp only [readNumeral, stops, Bool.false_eq_true, if_false]
        exact readNumeralEnd_closes 0 closes
  · obtain ⟨c, cs, spelled, other⟩ := Number.head_digitsOf_ne_zero n positive
    obtain ⟨digits, behind⟩ := takeWhile_digitsOf n closes
    have digit : isDigit c = true := Number.isDigit_of_mem_digitsOf (n := n) (by simp [spelled])
    have value := Number.natOfDigits_digitsOf n
    have folded := foldl_pushWhole 0 (digitsOf n) (by rw [value]; exact small)
    rw [value] at folded
    unfold readNumeral
    split
    next empty => simp [spelled] at empty
    next tail start =>
      rw [spelled, List.cons_append] at start
      exact absurd (List.cons.inj start).1 other
    next first tail _ start =>
      have sameHead : first = c := by
        rw [spelled, List.cons_append] at start
        exact (List.cons.inj start).1.symm
      rw [sameHead, if_pos digit, digits, behind, folded]
      exact readNumeralEnd_closes n closes

end Json

end GameScenes
