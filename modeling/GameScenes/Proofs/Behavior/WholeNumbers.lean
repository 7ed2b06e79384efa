import GameScenes.Behavior.Coercion
import GameScenes.Proofs.Json.Numerals

/-!
# Whole numbers of fields

A field of whole numbers takes a number as it is, when it is whole and one of 64 bits.  It takes a
numeral in a text as the number that it denotes, when it is plain or a double, and else as the
nearest double; a number beyond the range becomes the end of the range.
-/

set_option autoImplicit false

namespace GameScenes.Behavior

open Number (Held Nearest Numeral doubleValue? maxInt64 minInt64 readInt?)

variable {n : Numeral} {s : String} {x : Float} {k j : Int} {q : ℚ}

/-! ## What is accepted -/

theorem wholeOfDouble?_eq_some : wholeOfDouble? x = some k ↔ doubleValue? x = some (k : ℚ) :=
  Number.whole_iff

theorem asInt?_int : asInt? (.number (.int j)) = some k ↔ k = j ∧ minInt64 ≤ j ∧ j ≤ maxInt64 := by
  simp only [asInt?]
  split
  case isTrue inside => rw [Option.some_inj, eq_comm, and_iff_left inside]
  case isFalse outside =>
    exact iff_of_false (Option.some_ne_none k).symm fun same => outside same.2

theorem asInt?_float : asInt? (.number (.float x)) = some k ↔
    doubleValue? x = some (k : ℚ) ∧ minInt64 < k ∧ k ≤ maxInt64 := by
  simp only [asInt?, doubleOfNumber, Option.filter_eq_some_iff, wholeOfDouble?_eq_some,
    Bool.and_eq_true, decide_eq_true_iff]

theorem asInt?_text_of_readInt? (read : readInt? (Text.trim s) = some j) :
    asInt? (.text s) = some k ↔ k = j := by
  simp only [asInt?, read, Option.some_or, Option.some_inj, eq_comm]

theorem asInt?_text_of_none (spelled : n.chars = (Text.trim s).toList)
    (none : readInt? (Text.trim s) = none) :
    asInt? (.text s) = some k ↔
      ∃ w : Int, doubleValue? n.double = some (w : ℚ) ∧ clampInt64 w = k := by
  simp only [asInt?, none, Option.none_or, Number.readFloat?_numeral spelled.symm,
    Option.bind_some, Option.map_eq_some_iff, wholeOfDouble?_eq_some]

theorem clampInt64_eq (above : minInt64 < k) (below : k < maxInt64) : clampInt64 j = k ↔ j = k := by
  unfold clampInt64
  omega

theorem exists_numeral_of_accepted (accepted : asInt? (.text s) = some k) :
    ∃ n : Numeral, n.chars = (Text.trim s).toList := by
  simp only [asInt?] at accepted
  cases whole : readInt? (Text.trim s) with
  | some j => exact Number.exists_numeral_of_readInt? whole
  | none =>
      rw [whole, Option.none_or, Option.map_eq_some_iff] at accepted
      obtain ⟨w, read, -⟩ := accepted
      obtain ⟨x, double, value⟩ := Option.bind_eq_some_iff.mp read
      exact Number.exists_numeral double (wholeOfDouble?_eq_some.mp value)

/-! ## Numerals -/

/-- That a numeral is plain and denotes a number of 64 bits. -/
def IsInt64 (n : Numeral) : Prop := n.IsPlain ∧ minInt64 ≤ n.value ∧ n.value ≤ maxInt64

theorem isInt64_iff (plain : n.IsPlain) (value : n.value = j) :
    IsInt64 n ↔ minInt64 ≤ j ∧ j ≤ maxInt64 := by
  rw [IsInt64, value, Int.cast_le, Int.cast_le, and_iff_right plain]

theorem asInt?_of_isInt64 (spelled : n.chars = (Text.trim s).toList) (inside : IsInt64 n) :
    asInt? (.text s) = some k ↔ n.value = k := by
  obtain ⟨j, value⟩ := n.exists_whole inside.1
  have range := (isInt64_iff inside.1 value).mp inside
  have read := (Number.readInt?_numeral (k := j) spelled.symm).mpr ⟨inside.1, value, range⟩
  rw [asInt?_text_of_readInt? read, value, Int.cast_inj, eq_comm]

theorem readInt?_eq_none (spelled : n.chars = (Text.trim s).toList) (outside : ¬ IsInt64 n) :
    readInt? (Text.trim s) = none := by
  rw [Option.eq_none_iff_forall_ne_some]
  intro k read
  obtain ⟨plain, value, range⟩ := (Number.readInt?_numeral spelled.symm).mp read
  exact outside ((isInt64_iff plain value).mpr range)

/-- What is not above the least number of 64 bits is not rounded to one above it. -/
theorem le_minInt64 (nearest : Nearest .binary64 q k) (below : q ≤ minInt64) : k ≤ minInt64 := by
  have held : Held .binary64 minInt64 := ⟨-1, 63, by norm_num [minInt64], by decide, by decide⟩
  exact mod_cast nearest.ge_of_ge held below

/-- What is beyond the greatest number of 64 bits is not rounded to one that is not. -/
theorem maxInt64_lt (nearest : Nearest .binary64 q k) (above : maxInt64 + 1 ≤ q) : maxInt64 < k := by
  have held : Held .binary64 (maxInt64 + 1) := ⟨1, 63, by norm_num [maxInt64], by decide, by decide⟩
  have : maxInt64 + 1 ≤ k := mod_cast nearest.le_of_le held above
  omega

/-- A plain numeral beyond the range is stored as an end of the range. -/
theorem clamped_of_outside (spelled : n.chars = (Text.trim s).toList) (plain : n.IsPlain)
    (outside : ¬ IsInt64 n) (accepted : asInt? (.text s) = some k) :
    k = minInt64 ∨ k = maxInt64 := by
  obtain ⟨w, value, rfl⟩ :=
    (asInt?_text_of_none spelled (readInt?_eq_none spelled outside)).mp accepted
  have nearest := n.double_approximates.nearest w value
  obtain ⟨j, whole⟩ := n.exists_whole plain
  rw [whole] at nearest
  have beyond : j < minInt64 ∨ maxInt64 < j := by
    rw [isInt64_iff plain whole] at outside
    omega
  unfold clampInt64
  rcases beyond with below | above
  · have := le_minInt64 nearest (mod_cast below.le)
    left
    unfold minInt64 maxInt64 at *
    omega
  · have := maxInt64_lt nearest (mod_cast above)
    right
    unfold minInt64 maxInt64 at *
    omega

/-- Away from its ends a text is taken as the nearest double of its numeral. -/
theorem exists_rounded (spelled : n.chars = (Text.trim s).toList) (outside : ¬ IsInt64 n) :
    ∃ v, Nearest .binary64 n.value v ∧ ∀ k, minInt64 < k → k < maxInt64 →
      (asInt? (.text s) = some k ↔ v = k) := by
  have taken := fun k => asInt?_text_of_none (k := k) spelled (readInt?_eq_none spelled outside)
  cases value : doubleValue? n.double with
  | some v =>
      refine ⟨v, n.double_approximates.nearest v value, fun k above below => ?_⟩
      simp only [taken, value, Option.some_inj, clampInt64_eq above below, exists_eq_right]
  | none =>
      -- the number is so large that no nearest one is in the range
      have large : 2 ^ 1023 ≤ |n.value| := by
        by_contra small
        obtain ⟨v, finite⟩ := n.double_approximates.finite (not_le.mp small)
        rw [value] at finite
        cases finite
      obtain ⟨v, nearest⟩ := Number.exists_nearest .binary64 n.value
      refine ⟨v, nearest, fun k above below => iff_of_false ?_ ?_⟩
      · simp [taken, value]
      · rintro rfl
        have range : (2 : ℚ) ^ 63 ≤ 2 ^ 1023 := pow_le_pow_right₀ one_le_two (by decide)
        have ends : (minInt64 : ℚ) = -2 ^ 63 ∧ (maxInt64 : ℚ) + 1 = 2 ^ 63 := by
          norm_num [minInt64, maxInt64]
        rcases le_abs.mp (range.trans large) with high | low
        · have := maxInt64_lt nearest (ends.2.trans_le high)
          omega
        · have := le_minInt64 nearest (by linarith [ends.1])
          omega

/-! ## Numerals of a document -/

/-- A plain numeral of a document is taken when it denotes a number of 64 bits. -/
theorem asInt?_wholeNumber (plain : n.IsPlain) (small : n.significand ≤ Json.maxSignificand) :
    asInt? (.number (Json.wholeNumber n.significand n.sign.negative)) = some k ↔
      IsInt64 n ∧ n.value = k := by
  have value := n.value_of_isPlain plain
  cases sign : n.sign.negative with
  | false =>
      rw [sign, if_neg Bool.false_ne_true] at value
      rw [isInt64_iff plain value, value, Int.cast_inj, Json.wholeNumber, if_pos (by decide),
        asInt?_int, and_comm, eq_comm]
  | true =>
      rw [sign, if_pos rfl] at value
      rw [isInt64_iff plain value, value, Int.cast_inj, Json.wholeNumber, if_neg (by decide)]
      split
      case isFalse inside => rw [asInt?_int, and_comm, eq_comm]
      case isTrue unusual =>
        rw [asInt?_float]
        rcases unusual with zero | large
        · have exact : doubleValue? (-(UInt64.ofNat n.significand).toFloat) = some ((0 : Int) : ℚ) := by
            rw [zero, Number.doubleValue?_neg, Number.doubleValue?_ofNat (by decide)]
            simp
          rw [exact, Option.some_inj, Int.cast_inj, zero]
          unfold minInt64 maxInt64
          omega
        · have fits : n.significand < 2 ^ 64 := Nat.lt_succ_of_le small
          have approximates := (Number.ofNat_approximates fits).neg
          have below : -(n.significand : Int) < minInt64 := by
            unfold minInt64
            omega
          refine iff_of_false (fun taken => ?_) fun same => absurd same.1.1 (not_le.mpr below)
          have := le_minInt64 (approximates.nearest k taken.1) (mod_cast below.le)
          omega

/-- A numeral that is kept is taken alike from a document and from a text, except that the text may
become an end of the range. -/
theorem asInt?_alike {v : Json} (spelled : n.chars = (Text.trim s).toList) (kept : Json.Kept n)
    (read : Json.read n.chars = .ok v) :
    (asInt? v = some k → asInt? (.text s) = some k) ∧
      (minInt64 < k → k < maxInt64 → asInt? (.text s) = some k → asInt? v = some k) := by
  obtain ⟨number, rfl, whole, double⟩ := Json.number_of_read kept read
  by_cases plain : n.IsPlain
  · rw [whole plain, asInt?_wholeNumber plain kept.significand_le]
    by_cases inside : IsInt64 n
    · rw [asInt?_of_isInt64 spelled inside]
      exact ⟨fun same => same.2, fun _ _ same => ⟨inside, same⟩⟩
    · refine ⟨fun same => absurd same.1 inside, fun above below accepted => ?_⟩
      rcases clamped_of_outside spelled plain inside accepted with rfl | rfl
      · exact absurd above (lt_irrefl _)
      · exact absurd below (lt_irrefl _)
  · rw [double plain, asInt?_float,
      asInt?_text_of_none spelled (readInt?_eq_none spelled fun inside => plain inside.1)]
    constructor
    · rintro ⟨value, above, below⟩
      refine ⟨k, value, ?_⟩
      unfold clampInt64
      omega
    · rintro above below ⟨w, value, clamped⟩
      obtain rfl := (clampInt64_eq above below).mp clamped
      exact ⟨value, above, below.le⟩

/-! ## All values -/

/-- How a field of whole numbers takes values: numbers as they are, plain numerals of 64 bits in a text
as the numbers that they denote, and all other numerals, away from the ends of the range, as nearest
doubles.  A numeral that is kept is taken alike from a document and from a text. -/
structure TakesWholeNumbers (takes : Json → Int → Prop) : Prop where
  int : ∀ j k, takes (.number (.int j)) k ↔ k = j ∧ minInt64 ≤ j ∧ j ≤ maxInt64
  float : ∀ x k, takes (.number (.float x)) k ↔
    doubleValue? x = some (k : ℚ) ∧ minInt64 < k ∧ k ≤ maxInt64
  single : ∀ x k, takes (.number (.single x)) k ↔ takes (.number (.float x.toFloat)) k
  other : ∀ v k, takes v k → (∃ number, v = .number number) ∨ ∃ s, v = .text s
  numeral : ∀ s k, takes (.text s) k → ∃ n : Numeral, n.chars = (Text.trim s).toList
  plain : ∀ s (n : Numeral), n.chars = (Text.trim s).toList → IsInt64 n →
    ∀ k, takes (.text s) k ↔ n.value = k
  rounded : ∀ s (n : Numeral), n.chars = (Text.trim s).toList → ¬ IsInt64 n →
    ∃ v, Nearest .binary64 n.value v ∧ (Held .binary64 n.value → v = n.value) ∧
      ∀ k, minInt64 < k → k < maxInt64 → (takes (.text s) k ↔ v = k)
  alike : ∀ s (n : Numeral) v, n.chars = (Text.trim s).toList → Json.Kept n →
    Json.read n.chars = .ok v → ∀ k, (takes v k → takes (.text s) k) ∧
      (minInt64 < k → k < maxInt64 → takes (.text s) k → takes v k)

theorem coerce_int_eq_ok (graph : Scene.Graph) (layers : LayerTable) (context : Option EntityId)
    (v : Json) (k : Int) : coerce graph layers context .int v = .ok (.int k) ↔ asInt? v = some k := by
  simp only [coerce]
  cases asInt? v with
  | none => simp [orNotConvertible]
  | some j => simp [orNotConvertible]

/-- A number is never changed, and a text is taken as its numeral denotes; but what a text denotes is
rounded to a double, unless it is plain, and moved to the end of the range beyond it. -/
theorem coerce_takesWholeNumbers (graph : Scene.Graph) (layers : LayerTable)
    (context : Option EntityId) :
    TakesWholeNumbers fun v k => coerce graph layers context .int v = .ok (.int k) := by
  simp only [coerce_int_eq_ok]
  refine ⟨fun j k => asInt?_int, fun x k => asInt?_float, fun x k => .rfl, ?other, ?numeral,
    ?plain, ?rounded, ?alike⟩
  case other =>
    intro v k taken
    cases v with
    | number number => exact .inl ⟨number, rfl⟩
    | text s => exact .inr ⟨s, rfl⟩
    | null | bool | array | object => cases taken
  case numeral => exact fun s k => exists_numeral_of_accepted
  case plain => exact fun s n spelled inside k => asInt?_of_isInt64 spelled inside
  case rounded =>
    intro s n spelled outside
    obtain ⟨v, nearest, taken⟩ := exists_rounded spelled outside
    exact ⟨v, nearest, nearest.eq_of_held, taken⟩
  case alike => exact fun s n v spelled kept read k => asInt?_alike spelled kept read

/-- The first whole number beyond the range is taken from a text as the last one of the range, though
it is not taken as a number. -/
theorem overflow_taken_from_text :
    coerce .empty .builtin none .int (.text "9223372036854775808") =
        .ok (.int 9223372036854775807) ∧
      coerce .empty .builtin none .int (.number (.int 9223372036854775808)) =
        .error (.notConvertible (.number (.int 9223372036854775808)) "int") := by
  have taken : asInt? (.text "9223372036854775808") = some 9223372036854775807 := by decide +kernel
  have rejected : asInt? (.number (.int 9223372036854775808)) = none := by decide +kernel
  refine ⟨(coerce_int_eq_ok ..).mpr taken, ?_⟩
  simp only [coerce, rejected, orNotConvertible]

end GameScenes.Behavior
