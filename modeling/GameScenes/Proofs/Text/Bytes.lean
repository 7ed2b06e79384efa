import Mathlib.Data.Char
import Mathlib.Data.String.Basic

/-!
# The order of texts

Texts are ordered by their characters, which is the order of the bytes that encode them
(`bytes_le_iff`).
-/

set_option autoImplicit false

namespace GameScenes.Text

/-- The bytes that encode a text. -/
def bytes (s : String) : List Nat := s.toUTF8.data.toList.map UInt8.toNat

/-- The bytes that encode a code point. -/
def bytesOfPoint (v : Nat) : List Nat :=
  if v ≤ 127 then [v]
  else if v ≤ 2047 then [v / 64 % 32 + 192, v % 64 + 128]
  else if v ≤ 65535 then [v / 4096 % 16 + 224, v / 64 % 64 + 128, v % 64 + 128]
  else [v / 262144 % 8 + 240, v / 4096 % 64 + 128, v / 64 % 64 + 128, v % 64 + 128]

theorem toNat_lt_top (c : Char) : c.toNat < 1114112 := by
  rcases c.valid with low | high
  · have below : c.val.toNat < 55296 := low
    exact lt_trans below (by decide)
  · exact high.2

theorem map_utf8EncodeChar (c : Char) :
    (String.utf8EncodeChar c).map UInt8.toNat = bytesOfPoint c.toNat := by
  have top := toNat_lt_top c
  have point : c.val.toNat = c.toNat := rfl
  unfold String.utf8EncodeChar bytesOfPoint
  simp only [point]
  split_ifs <;> simp only [List.map_cons, List.map_nil, UInt8.toNat_ofNat'] <;> grind

theorem bytes_eq (s : String) : bytes s = s.toList.flatMap fun c => bytesOfPoint c.toNat := by
  have encoded : s.toUTF8.data.toList = s.toList.flatMap String.utf8EncodeChar := by
    rw [String.toUTF8, ← String.utf8Encode_toList, List.utf8Encode, List.data_toByteArray]
  rw [bytes, encoded, List.map_flatMap]
  simp only [map_utf8EncodeChar]

theorem bytesOfPoint_ne_nil (v : Nat) : bytesOfPoint v ≠ [] := by
  unfold bytesOfPoint
  split_ifs <;> simp

/-- A greater code point has greater bytes, whatever follows: of two code points with as many bytes
the first byte that differs decides, and a longer encoding starts with a greater byte. -/
theorem bytesOfPoint_lt {v w : Nat} (less : v < w) (top : w < 1114112) (xs ys : List Nat) :
    bytesOfPoint v ++ xs < bytesOfPoint w ++ ys := by
  unfold bytesOfPoint
  split_ifs <;> simp only [List.cons_append, List.nil_append, List.cons_lt_cons_iff] <;>
    try omega
  rcases lt_or_eq_of_le (Nat.div_le_div_right (c := 262144) less.le) with first | first
  · left
    omega
  · right
    refine ⟨by omega, ?_⟩
    rcases lt_or_eq_of_le (Nat.div_le_div_right (c := 4096) less.le) with second | second
    · left
      omega
    · right
      omega

theorem bytes_lt_of_lt {s t : String} (less : s < t) : bytes s < bytes t := by
  rw [String.lt_iff_toList_lt] at less
  rw [bytes_eq, bytes_eq]
  generalize s.toList = cs at less
  generalize t.toList = ds at less
  induction cs generalizing ds with
  | nil =>
      cases ds with
      | nil => exact absurd less (lt_irrefl _)
      | cons d ds =>
          rw [List.flatMap_nil, List.flatMap_cons]
          cases encoded : bytesOfPoint d.toNat with
          | nil => exact absurd encoded (bytesOfPoint_ne_nil _)
          | cons b bs => exact List.nil_lt_cons b _
  | cons c cs ih =>
      cases ds with
      | nil => exact absurd less (List.not_lt_nil _)
      | cons d ds =>
          rw [List.flatMap_cons, List.flatMap_cons]
          rcases List.cons_lt_cons_iff.mp less with first | ⟨rfl, later⟩
          · exact bytesOfPoint_lt first (toNat_lt_top d) _ _
          · exact List.append_left_lt (ih ds later)

theorem bytes_lt_iff {s t : String} : bytes s < bytes t ↔ s < t := by
  refine ⟨fun less => ?_, bytes_lt_of_lt⟩
  rcases lt_trichotomy s t with before | rfl | after
  · exact before
  · exact absurd less (lt_irrefl _)
  · exact absurd (less.trans (bytes_lt_of_lt after)) (lt_irrefl _)

theorem bytes_le_iff {s t : String} : bytes s ≤ bytes t ↔ s ≤ t := by
  rw [← not_lt, ← not_lt, bytes_lt_iff]

end GameScenes.Text
