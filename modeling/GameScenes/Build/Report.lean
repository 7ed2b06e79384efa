import GameScenes.Project.Saving
import GameScenes.Report.Encoding

/-!
# Reports

What a run comes to: the scenes that were saved, the scenes that were given up, and all faults.
A report is shown as a value or as lines of text.
-/

set_option autoImplicit false

namespace GameScenes

open Json

def SavedScene.toJson (scene : SavedScene) : Json :=
  .object
    [("name", .text scene.name), ("path", .text scene.path),
      ("relative_path", .text scene.relativePath),
      ("added_to_build", .bool scene.addedToBuild)]

namespace Build

/-- A scene that was given up, with its position in the document. -/
structure AbortedScene where
  index : Nat
  name : String
  reason : String
  deriving DecidableEq, Repr

def AbortedScene.toJson (scene : AbortedScene) : Json :=
  .object
    [("index", ofNat scene.index), ("name", .text scene.name), ("reason", .text scene.reason)]

/-- What a run comes to. -/
structure Report where
  title : String
  saved : List SavedScene
  aborted : List AbortedScene
  diagnostics : List Diagnostic
  /-- Whether the run ended before all scenes were reached. -/
  cancelled : Bool

namespace Report

/-- The number of faults of a severity. -/
def count (report : Report) (severity : Severity) : Nat :=
  report.diagnostics.countP fun d => d.severity == severity

def toJson (report : Report) : Json :=
  .object
    [("title", .text report.title), ("saved", ofList SavedScene.toJson report.saved),
      ("aborted", ofList AbortedScene.toJson report.aborted),
      ("diagnostics", ofList Diagnostic.toJson report.diagnostics),
      ("cancelled", .bool report.cancelled)]

def savedLine (scene : SavedScene) : String :=
  "  saved   " ++ scene.name ++ " -> " ++ scene.relativePath ++
    (if scene.addedToBuild then " (added to build)" else "")

def abortedLine (scene : AbortedScene) : String :=
  "  aborted " ++ scene.name ++ " (#" ++ Number.natText scene.index ++ "): " ++ scene.reason

def summaryLine (report : Report) : String :=
  Number.natText report.saved.length ++ " saved, " ++ Number.natText report.aborted.length ++
    " aborted, " ++ Number.natText (report.count .warning) ++ " warnings, " ++
      Number.natText (report.count .error) ++ " errors"

def lines (report : Report) : List String :=
  report.title :: report.saved.map savedLine ++ report.aborted.map abortedLine ++
    report.diagnostics.map (fun d => "  " ++ d.text) ++
    (if report.cancelled then ["  cancelled before all scenes were compiled"] else []) ++
    [report.summaryLine]

end Report

end Build

end GameScenes
