import GameScenes.Json.Printer
import GameScenes.Proofs.Json.CutLexemes
import GameScenes.Proofs.Number.Doubles
import GameScenes.Proofs.Number.Singles
import GameScenes.Proofs.Text.Trimming
import GameScenes.Scene.Color

/-!
# Colors that are written

A text writes a color when six or eight digits in base sixteen are left of it without the blanks at
its ends and without the number signs in front, of which there may be any number.  The value of each
pair of digits gives one channel: the nearest float to this part of 255 (`ofText?_exact`).
-/

set_option autoImplicit false

namespace GameScenes.Color

open Json (hexDigit hexDigit?)
open Float.Model.UnpackedFloat
open Number (Held Nearest RoundsTo singleValue? value?)
open Text (lowerChar trimChars)

/-! ## Digits -/

/-- A digit in base sixteen with its value; capital letters are digits, too. -/
def IsDigit (c : Char) (value : Nat) : Prop := value < 16 ∧ lowerChar c = hexDigit value

instance (c : Char) (value : Nat) : Decidable (IsDigit c value) :=
  inferInstanceAs (Decidable (_ ∧ _))

/-- What holds of all ASCII characters by their codes holds of each of them. -/
theorem of_ascii {P : Char → Prop} (all : ∀ code < 128, P (Char.ofNat code)) {c : Char}
    (ascii : c.toNat < 128) : P c := by
  rw [← Char.ofNat_toNat c]
  exact all c.toNat ascii

theorem isDigit_table : ∀ code < 128, ∀ value < 16,
    IsDigit (Char.ofNat code) value → hexDigit? (Char.ofNat code) = some value := by
  decide +kernel

theorem hexDigit?_table : ∀ code < 128,
    ∀ value ∈ hexDigit? (Char.ofNat code), IsDigit (Char.ofNat code) value := by
  decide +kernel

theorem toNat_hexDigit_le : ∀ value < 16, (hexDigit value).toNat ≤ 102 := by decide

theorem hexDigit?_eq_some_iff {c : Char} {value : Nat} :
    hexDigit? c = some value ↔ IsDigit c value := by
  constructor
  · intro read
    have below : c.toNat ≤ 102 := Json.hexDigit_le (by rw [read]; rfl)
    exact of_ascii (P := fun c => ∀ value ∈ hexDigit? c, IsDigit c value) hexDigit?_table
      (by omega) value read
  · intro digit
    have below := toNat_hexDigit_le value digit.1
    rw [← digit.2] at below
    have ascii : c.toNat < 128 := by
      rcases Text.lowerChar_cases c with same | ⟨-, greatest, -⟩
      · rw [same] at below
        omega
      · omega
    exact of_ascii (P := fun c => ∀ value < 16, IsDigit c value → hexDigit? c = some value)
      isDigit_table ascii value digit.1 digit

/-- Six or eight digits. -/
structure IsCode (digits : List Char) : Prop where
  length : digits.length = 6 ∨ digits.length = 8
  valued : ∀ c ∈ digits, ∃ value, IsDigit c value

/-- The value of a pair of digits, counted from zero. -/
def PairAt (digits : List Char) (i byte : Nat) : Prop :=
  ∃ high low h l, digits[2 * i]? = some high ∧ digits[2 * i + 1]? = some low ∧
    IsDigit high h ∧ IsDigit low l ∧ byte = 16 * h + l

/-- That floats are the channels of pairs of digits, and others behind them. -/
def Shows (digits : List Char) (floats : List Float32) : Prop :=
  ∀ i byte, PairAt digits i byte → floats[i]? = some (channel byte)

def channels (color : Color) : List Float32 := [color.red, color.green, color.blue, color.alpha]

/-- That the channels of a color are those of the pairs of digits. -/
structure Spells (digits : List Char) (color : Color) : Prop where
  channels : Shows digits color.channels
  opaque_of_six : digits.length = 6 → color.alpha = 1

theorem IsDigit.unique {c : Char} {value other : Nat} (digit : IsDigit c value)
    (again : IsDigit c other) : value = other := by
  rw [← hexDigit?_eq_some_iff] at digit again
  exact Option.some.inj (digit.symm.trans again)

theorem shows_nil (floats : List Float32) : Shows [] floats := by
  rintro i byte ⟨high, low, h, l, first, -⟩
  simp at first

theorem Shows.cons {high low : Char} {h l : Nat} {rest : List Char} {floats : List Float32}
    (first : IsDigit high h) (second : IsDigit low l) (others : Shows rest floats) :
    Shows (high :: low :: rest) (channel (16 * h + l) :: floats) := by
  rintro i byte ⟨a, b, u, v, left, right, upper, lower, rfl⟩
  cases i with
  | zero =>
      cases left
      cases right
      rw [first.unique upper, second.unique lower]
      rfl
  | succ i =>
      exact others i _ ⟨a, b, u, v, left, right, upper, lower, rfl⟩

theorem channel?_of_isDigit {high low : Char} {h l : Nat} (first : IsDigit high h)
    (second : IsDigit low l) : channel? high low = some (channel (16 * h + l)) := by
  rw [channel?, hexDigit?_eq_some_iff.mpr first, hexDigit?_eq_some_iff.mpr second, Nat.mul_comm]

theorem isDigit_of_channel? {high low : Char} {a : Float32} (read : channel? high low = some a) :
    (∃ h, IsDigit high h) ∧ ∃ l, IsDigit low l := by
  unfold channel? at read
  split at read
  next h l first second =>
    exact ⟨⟨h, hexDigit?_eq_some_iff.mp first⟩, l, hexDigit?_eq_some_iff.mp second⟩
  · cases read

/-! ## Channels -/

/-- A whole number of up to 24 bits is a float. -/
theorem singleValue?_ofNat {n : Nat} (short : n < 2 ^ 24) :
    singleValue? (UInt32.ofNat n).toFloat32 = some (n : ℚ) := by
  have rounds : RoundsTo .binary32 (n : ℚ) (ofUInt32 .binary32 (UInt32.ofNat n)) := by
    have same : (UInt32.ofNat n).toNat = n := by
      rw [UInt32.toNat_ofNat', Nat.mod_eq_of_lt (by omega)]
    have normal := Number.normalize_roundsTo (S := .binary32) n 0 .positive
    rw [zpow_zero, mul_one, Int.cast_natCast] at normal
    rwa [ofUInt32, same]
  have held : Held .binary32 (n : ℚ) := ⟨n, 0, by simp, by rw [Nat.abs_cast]; exact mod_cast short,
    by decide⟩
  have bound : |(n : ℚ)| < 2 ^ 127 := by
    rw [Nat.abs_cast]
    exact mod_cast short.trans (by decide)
  obtain ⟨v, value, nearest⟩ := rounds.nearest
  have packed : singleValue? (UInt32.ofNat n).toFloat32 =
      value? (unpack .binary32 (pack .binary32 (ofUInt32 .binary32 (UInt32.ofNat n)))) :=
    Number.singleValue?_eq _
  rw [packed, rounds.unpack_pack (by decide) bound, value, nearest.eq_of_held held]

theorem singleValue?_255 : singleValue? 255 = some 255 := by
  have bits : Number.ofSingle? 255 = some ⟨false, 16711680, -16⟩ := by decide +kernel
  rw [singleValue?, bits]
  norm_num [Number.Dyadic.value]

/-- That a float is the nearest one to a part of 255. -/
def IsShare (byte : Nat) (a : Float32) : Prop :=
  ∃ v, singleValue? a = some v ∧ Nearest .binary32 (byte / 255) v

theorem isShare_channel {byte : Nat} (small : byte < 256) : IsShare byte (channel byte) := by
  have dividend := singleValue?_ofNat (n := byte) (small.trans (by decide))
  have divisor := singleValue?_255
  rw [Number.singleValue?_eq] at dividend divisor
  have rounds := Number.div_roundsTo (S := .binary32) dividend divisor (by norm_num)
  have bound : |(byte / 255 : ℚ)| < 2 ^ 127 := by
    rw [abs_of_nonneg (by positivity), div_lt_iff₀ (by norm_num)]
    calc (byte : ℚ) < 256 := mod_cast small
      _ ≤ 2 ^ 127 * 255 := by norm_num
  obtain ⟨v, value, nearest⟩ := rounds.nearest
  refine ⟨v, ?_, nearest⟩
  have packed : singleValue? (channel byte) = value? (unpack .binary32 (pack .binary32
      (div .binary32 (Number.unpackSingle (UInt32.ofNat byte).toFloat32)
        (Number.unpackSingle 255)))) := Number.singleValue?_eq _
  rw [packed, rounds.unpack_pack (by decide) bound, value]

/-! ## Codes -/

/-- A code is read as the color that it spells. -/
theorem ofDigits?_of_isCode {digits : List Char} (code : IsCode digits) :
    ∃ color, ofDigits? digits = some color ∧ Spells digits color := by
  obtain ⟨length, valued⟩ := code
  match digits, length with
  | [r1, r2, g1, g2, b1, b2], _ =>
      simp only [List.forall_mem_cons] at valued
      obtain ⟨⟨r, r1⟩, ⟨r', r2⟩, ⟨g, g1⟩, ⟨g', g2⟩, ⟨b, b1⟩, ⟨b', b2⟩, -⟩ := valued
      refine ⟨⟨channel (16 * r + r'), channel (16 * g + g'), channel (16 * b + b'), 1⟩, ?_,
        (((shows_nil [1]).cons b1 b2).cons g1 g2).cons r1 r2, fun _ => rfl⟩
      simp only [ofDigits?, channel?_of_isDigit r1 r2, channel?_of_isDigit g1 g2,
        channel?_of_isDigit b1 b2]
  | [r1, r2, g1, g2, b1, b2, a1, a2], _ =>
      simp only [List.forall_mem_cons] at valued
      obtain ⟨⟨r, r1⟩, ⟨r', r2⟩, ⟨g, g1⟩, ⟨g', g2⟩, ⟨b, b1⟩, ⟨b', b2⟩, ⟨a, a1⟩, ⟨a', a2⟩, -⟩ :=
        valued
      refine ⟨⟨channel (16 * r + r'), channel (16 * g + g'), channel (16 * b + b'),
        channel (16 * a + a')⟩, ?_,
        ((((shows_nil []).cons a1 a2).cons b1 b2).cons g1 g2).cons r1 r2,
        fun six => absurd six (by simp)⟩
      simp only [ofDigits?, channel?_of_isDigit r1 r2, channel?_of_isDigit g1 g2,
        channel?_of_isDigit b1 b2, channel?_of_isDigit a1 a2]

theorem isCode_of_ofDigits? {digits : List Char} {color : Color}
    (read : ofDigits? digits = some color) : IsCode digits := by
  unfold ofDigits? at read
  split at read
  next r1 r2 g1 g2 b1 b2 =>
    split at read
    next red green blue first second third =>
      obtain ⟨r1, r2⟩ := isDigit_of_channel? first
      obtain ⟨g1, g2⟩ := isDigit_of_channel? second
      obtain ⟨b1, b2⟩ := isDigit_of_channel? third
      exact ⟨.inl rfl, by simp [r1, r2, g1, g2, b1, b2]⟩
    · cases read
  next r1 r2 g1 g2 b1 b2 a1 a2 =>
    split at read
    next red green blue alpha first second third fourth =>
      obtain ⟨r1, r2⟩ := isDigit_of_channel? first
      obtain ⟨g1, g2⟩ := isDigit_of_channel? second
      obtain ⟨b1, b2⟩ := isDigit_of_channel? third
      obtain ⟨a1, a2⟩ := isDigit_of_channel? fourth
      exact ⟨.inr rfl, by simp [r1, r2, g1, g2, b1, b2, a1, a2]⟩
    · cases read
  · cases read

theorem isSome_ofDigits?_iff (digits : List Char) :
    (ofDigits? digits).isSome = true ↔ IsCode digits := by
  rw [Option.isSome_iff_exists]
  constructor
  · rintro ⟨color, read⟩
    exact isCode_of_ofDigits? read
  · intro code
    obtain ⟨color, read, -⟩ := ofDigits?_of_isCode code
    exact ⟨color, read⟩

/-! ## Texts -/

theorem not_isDigit_mark (value : Nat) : ¬ IsDigit '#' value := by
  rw [← hexDigit?_eq_some_iff]
  simp [hexDigit?]

/-- All number signs in front of a code are passed over. -/
theorem dropWhile_marks (marks : Nat) {digits : List Char} (code : IsCode digits) :
    (List.replicate marks '#' ++ digits).dropWhile (· = '#') = digits := by
  induction marks with
  | zero =>
      cases digits with
      | nil => rfl
      | cons c rest =>
          obtain ⟨value, digit⟩ := code.valued c (List.mem_cons_self ..)
          have apart : c ≠ '#' := by
            rintro rfl
            exact not_isDigit_mark value digit
          simp [apart]
  | succ marks ih => simpa [List.replicate_succ] using ih

theorem exists_marks (cs : List Char) :
    ∃ marks, cs = List.replicate marks '#' ++ cs.dropWhile (· = '#') := by
  refine ⟨(cs.takeWhile (· = '#')).length, ?_⟩
  have signs : cs.takeWhile (· = '#') =
      List.replicate (cs.takeWhile (· = '#')).length '#' := by
    apply List.eq_replicate_of_mem
    intro c member
    simpa using List.mem_takeWhile_imp member
  rw [← signs, List.takeWhile_append_dropWhile]

/-- That characters are a code behind number signs. -/
def IsMarked (marks : Nat) (digits cs : List Char) : Prop :=
  cs = List.replicate marks '#' ++ digits ∧ IsCode digits

theorem isSome_ofText?_iff (s : String) :
    (ofText? s).isSome = true ↔ ∃ marks digits, IsMarked marks digits (trimChars s.toList) := by
  unfold ofText?
  rw [isSome_ofDigits?_iff]
  constructor
  · intro code
    obtain ⟨marks, whole⟩ := exists_marks (trimChars s.toList)
    exact ⟨marks, _, whole, code⟩
  · rintro ⟨marks, digits, whole, code⟩
    rwa [whole, dropWhile_marks marks code]

theorem spells_of_ofText? {s : String} {color : Color} (read : ofText? s = some color)
    {marks : Nat} {digits : List Char} (marked : IsMarked marks digits (trimChars s.toList)) :
    Spells digits color := by
  obtain ⟨whole, code⟩ := marked
  obtain ⟨same, own, spells⟩ := ofDigits?_of_isCode code
  rw [ofText?, whole, dropWhile_marks marks code, own] at read
  cases read
  exact spells

/-- A text is a code behind number signs in one way. -/
theorem IsMarked.unique {marks others : Nat} {digits left cs : List Char}
    (marked : IsMarked marks digits cs) (again : IsMarked others left cs) :
    marks = others ∧ digits = left := by
  have same := marked.1.symm.trans again.1
  have digitsSame : digits = left := by
    rw [← dropWhile_marks marks marked.2, same, dropWhile_marks others again.2]
  subst digitsSame
  have lengths := congrArg List.length same
  simp only [List.length_append, List.length_replicate] at lengths
  exact ⟨by omega, rfl⟩

/-- What is documented: a code behind one number sign or none. -/
def Documented (cs : List Char) : Prop := ∃ marks ≤ 1, ∃ digits, IsMarked marks digits cs

theorem PairAt.lt {digits : List Char} {i byte : Nat} (pair : PairAt digits i byte) :
    byte < 256 := by
  obtain ⟨-, -, h, l, -, -, ⟨high, -⟩, ⟨low, -⟩, rfl⟩ := pair
  omega

/-- A text writes a color exactly when it is a code behind number signs and between blanks, and then
the color that the code spells.  That is what is documented unless there are two signs or more. -/
theorem ofText?_exact (s : String) :
    ((ofText? s).isSome = true ↔ ∃ marks digits, IsMarked marks digits (trimChars s.toList)) ∧
    (((ofText? s).isSome = true ↔ Documented (trimChars s.toList)) ↔
      ¬ ∃ marks ≥ 2, ∃ digits, IsMarked marks digits (trimChars s.toList)) ∧
    ∀ color, ofText? s = some color → ∀ marks digits,
      IsMarked marks digits (trimChars s.toList) → Spells digits color ∧
        ∀ i byte, PairAt digits i byte → IsShare byte (channel byte) := by
  refine ⟨isSome_ofText?_iff s, ?_, ?_⟩
  · rw [isSome_ofText?_iff]
    constructor
    · rintro whole ⟨marks, many, digits, marked⟩
      obtain ⟨others, few, left, documented⟩ := whole.mp ⟨marks, digits, marked⟩
      have := (marked.unique documented).1
      omega
    · intro none
      constructor
      · rintro ⟨marks, digits, marked⟩
        exact ⟨marks, by by_contra many; exact none ⟨marks, by omega, digits, marked⟩, digits,
          marked⟩
      · rintro ⟨marks, -, digits, marked⟩
        exact ⟨marks, digits, marked⟩
  · intro color read marks digits marked
    exact ⟨spells_of_ofText? read marked, fun i byte pair => isShare_channel pair.lt⟩

def orangeDigits : List Char := ['F', 'F', '8', '0', '0', '0']

theorem isMarked_orange : IsMarked 2 orangeDigits (trimChars "##FF8000".toList) := by
  have read : orangeDigits.all (fun c => (hexDigit? c).isSome) = true := by decide
  refine ⟨by decide +kernel, .inl rfl, fun c member => ?_⟩
  obtain ⟨value, digit⟩ := Option.isSome_iff_exists.mp (List.all_eq_true.mp read c member)
  exact ⟨value, hexDigit?_eq_some_iff.mp digit⟩

/-- A text with two number signs writes a color, too. -/
theorem ofText?_two_marks :
    ¬ ∀ s : String, (ofText? s).isSome = true ↔ Documented (trimChars s.toList) := by
  intro documented
  obtain ⟨marks, few, digits, marked⟩ :=
    (documented "##FF8000").mp ((isSome_ofText?_iff _).mpr ⟨2, _, isMarked_orange⟩)
  have := (marked.unique isMarked_orange).1
  omega

end GameScenes.Color
