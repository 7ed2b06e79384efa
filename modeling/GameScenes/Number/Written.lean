import GameScenes.Number.Shortest

/-!
# Floats as text

A float is written by its shortest decimal, with a point or an exponent in every case.  Which
magnitudes are written with a plain point depends on the width of the float and is kept in its
`FloatForm`.
-/

set_option autoImplicit false

namespace GameScenes.Number

/-- How floats of one width are written: the positions of the decimal point, counted from the
leading digit, that are written without an exponent. -/
structure FloatForm where
  layout : Layout
  lowest : Int
  highest : Int

/-- Doubles are written plainly from `0.00001` up to below `10 ^ 16`. -/
def doubleForm : FloatForm := ⟨.double, -4, 16⟩

/-- Singles are written plainly from `0.000001` up to below `10 ^ 13`. -/
def singleForm : FloatForm := ⟨.single, -5, 13⟩

def FloatForm.decimalText (form : FloatForm) (d : Decimal) : List Char :=
  let ds := digitsOf d.digits
  let point : Int := d.exponent + ds.length
  if form.lowest ≤ point ∧ point ≤ form.highest then
    if 0 ≤ d.exponent then ds ++ List.replicate d.exponent.toNat '0' ++ ['.', '0']
    else if 0 < point then ds.take point.toNat ++ '.' :: ds.drop point.toNat
    else '0' :: '.' :: List.replicate (-point).toNat '0' ++ ds
  else
    let exponent := point - 1
    let sign := if exponent < 0 then '-' else '+'
    let mantissa := match ds with
      | [] => []
      | [d] => [d]
      | d :: rest => d :: '.' :: rest
    mantissa ++ 'e' :: sign :: digitsOf exponent.natAbs

/-- The shortest decimal of a finite float, with the sign that zero has too. -/
def FloatForm.text (form : FloatForm) (d : Dyadic) : String :=
  let magnitude :=
    if d.significand = 0 then ['0', '.', '0'] else form.decimalText (shortest form.layout d)
  String.ofList (if d.negative then '-' :: magnitude else magnitude)

def doubleText? (x : Float) : Option String :=
  (ofDouble? x).map doubleForm.text

def singleText? (x : Float32) : Option String :=
  (ofSingle? x).map singleForm.text

end GameScenes.Number
