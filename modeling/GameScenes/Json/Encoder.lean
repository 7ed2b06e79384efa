import GameScenes.Json.Basic

/-!
# Encoding values as Json

Small pieces from which the records of the library are written.  Floats that are not finite have
no numeral and become `null`.
-/

set_option autoImplicit false

namespace GameScenes.Json

def ofNat (n : Nat) : Json := number (.int n)

def ofSingle (x : Float32) : Json :=
  if x.isFinite then number (.single x) else null

def ofDouble (x : Float) : Json :=
  if x.isFinite then number (.float x) else null

/-- A value that may be missing. -/
def ofOption {α : Type} (encode : α → Json) : Option α → Json
  | none => null
  | some a => encode a

def ofList {α : Type} (encode : α → Json) (values : List α) : Json :=
  array (values.map encode)

/-- A member that is left out when its value is missing. -/
def member? {α : Type} (name : String) (encode : α → Json) : Option α → List (String × Json)
  | none => []
  | some a => [(name, encode a)]

/-- A value under its only key. -/
def tagged (name : String) (value : Json) : Json := object [(name, value)]

end GameScenes.Json
