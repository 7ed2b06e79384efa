import GameScenes.Json.Lexeme
import GameScenes.Text.Blank

/-!
# Colors

A color has four channels from zero to one.  A document writes it as six or eight digits in base
sixteen, two for each channel; without the last two the color is opaque.
-/

set_option autoImplicit false

namespace GameScenes

structure Color where
  red : Float32
  green : Float32
  blue : Float32
  alpha : Float32
  deriving Inhabited

namespace Color

def white : Color := ⟨1, 1, 1, 1⟩

def channel (byte : Nat) : Float32 := (UInt32.ofNat byte).toFloat32 / 255

/-- The channel of two digits. -/
def channel? (high low : Char) : Option Float32 :=
  match Json.hexDigit? high, Json.hexDigit? low with
  | some h, some l => some (channel (h * 16 + l))
  | _, _ => none

/-- The color of six or eight digits. -/
def ofDigits? : List Char → Option Color
  | [r1, r2, g1, g2, b1, b2] =>
      match channel? r1 r2, channel? g1 g2, channel? b1 b2 with
      | some red, some green, some blue => some ⟨red, green, blue, 1⟩
      | _, _, _ => none
  | [r1, r2, g1, g2, b1, b2, a1, a2] =>
      match channel? r1 r2, channel? g1 g2, channel? b1 b2, channel? a1 a2 with
      | some red, some green, some blue, some alpha => some ⟨red, green, blue, alpha⟩
      | _, _, _, _ => none
  | _ => none

/-- The color that a text writes, with blanks around it and number signs in front. -/
def ofText? (s : String) : Option Color :=
  ofDigits? ((Text.trimChars s.toList).dropWhile (· = '#'))

end Color

end GameScenes
