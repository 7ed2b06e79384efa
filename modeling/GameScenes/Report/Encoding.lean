import GameScenes.Json.Encoder
import GameScenes.Report.Diagnostic

/-!
# Diagnostics as Json
-/

set_option autoImplicit false

namespace GameScenes

open Json

/-- A fault with all its members. -/
def Diagnostic.toJson (d : Diagnostic) : Json :=
  .object
    [("code", .text d.code.name), ("severity", .text d.severity.name),
      ("scene", ofOption .text d.scene), ("subject", ofOption .text d.subject),
      ("field", ofOption .text d.field), ("value", ofOption .text d.value),
      ("message", .text d.message)]

end GameScenes
