/-!
# Diagnostics

A fault of one feature of a document is recorded and the rest is still built.  The log remembers
the scene that is being worked on and gives its name to what is recorded meanwhile.
-/

set_option autoImplicit false

namespace GameScenes

/-- The kinds of faults. -/
inductive DiagnosticCode where
  | unknownBehavior
  | ambiguousBehavior
  | unknownParameter
  | coercionFailed
  | unresolvedReference
  | assetNotFound
  | assetUnreadable
  | unknownTileName
  | tileOutOfAtlas
  | unknownTileset
  | invalidTileset
  | layerCapacityExceeded
  | unknownLayer
  | invalidColor
  | unknownCommand
  | unknownParent
  | sceneAborted
  | duplicateSceneName
  | malformedSection
  | invalidLegendKey
  | outputFailed
  deriving DecidableEq, Repr

/-- The name of a kind of fault. -/
def DiagnosticCode.name : DiagnosticCode → String
  | unknownBehavior => "UnknownBehavior"
  | ambiguousBehavior => "AmbiguousBehavior"
  | unknownParameter => "UnknownParameter"
  | coercionFailed => "CoercionFailed"
  | unresolvedReference => "UnresolvedReference"
  | assetNotFound => "AssetNotFound"
  | assetUnreadable => "AssetUnreadable"
  | unknownTileName => "UnknownTileName"
  | tileOutOfAtlas => "TileOutOfAtlas"
  | unknownTileset => "UnknownTileset"
  | invalidTileset => "InvalidTileset"
  | layerCapacityExceeded => "LayerCapacityExceeded"
  | unknownLayer => "UnknownLayer"
  | invalidColor => "InvalidColor"
  | unknownCommand => "UnknownCommand"
  | unknownParent => "UnknownParent"
  | sceneAborted => "SceneAborted"
  | duplicateSceneName => "DuplicateSceneName"
  | malformedSection => "MalformedSection"
  | invalidLegendKey => "InvalidLegendKey"
  | outputFailed => "OutputFailed"

/-- How grave a fault is. -/
inductive Severity where
  | warning
  | error
  deriving DecidableEq, Repr

def Severity.name : Severity → String
  | warning => "Warning"
  | error => "Error"

/-- A fault with the part of the document that it concerns. -/
structure Diagnostic where
  code : DiagnosticCode
  severity : Severity
  scene : Option String
  subject : Option String
  field : Option String
  value : Option String
  message : String
  deriving DecidableEq, Repr

namespace Diagnostic

/-- A fault after which the feature is left out. -/
def warning (code : DiagnosticCode) (message : String) : Diagnostic :=
  ⟨code, .warning, none, none, none, none, message⟩

/-- A fault after which a scene is missing or incomplete on the disk. -/
def error (code : DiagnosticCode) (message : String) : Diagnostic :=
  { warning code message with severity := .error }

/-- A fault of a named thing. -/
def about (d : Diagnostic) (subject : String) : Diagnostic := { d with subject := some subject }

def inField (d : Diagnostic) (field : String) : Diagnostic := { d with field := some field }

def withValue (d : Diagnostic) (value : String) : Diagnostic := { d with value := some value }

/-- A part of the text of a fault that may be missing. -/
def part (label : String) : Option String → String
  | none => ""
  | some s => ", " ++ label ++ "=" ++ s

/-- A fault in one line. -/
def text (d : Diagnostic) : String :=
  d.code.name ++ ": " ++ d.message ++ " (scene=" ++ d.scene.getD "<none>" ++
    part "subject" d.subject ++ part "field" d.field ++ part "value" d.value ++ ")"

end Diagnostic

/-- The faults recorded so far, and the scene that is being worked on. -/
structure DiagnosticLog where
  scene : Option String
  entries : Array Diagnostic

namespace DiagnosticLog

/-- A log without faults. -/
def empty : DiagnosticLog := ⟨none, #[]⟩

/-- A log that works on a scene from now on. -/
def enterScene (log : DiagnosticLog) (scene : String) : DiagnosticLog :=
  { log with scene := some scene }

def leaveScene (log : DiagnosticLog) : DiagnosticLog := { log with scene := none }

/-- A fault with the scene of the log, unless it has one. -/
def locate (log : DiagnosticLog) (d : Diagnostic) : Diagnostic :=
  { d with scene := d.scene.or log.scene }

/-- A log with one more fault. -/
def push (log : DiagnosticLog) (d : Diagnostic) : DiagnosticLog :=
  { log with entries := log.entries.push (log.locate d) }

/-- A log with more faults. -/
def pushAll (log : DiagnosticLog) (ds : List Diagnostic) : DiagnosticLog := ds.foldl push log

/-- The number of faults. -/
def size (log : DiagnosticLog) : Nat := log.entries.size

/-- The number of faults of a kind. -/
def count (log : DiagnosticLog) (code : DiagnosticCode) : Nat :=
  (log.entries.toList.filter fun d => d.code == code).length

end DiagnosticLog

end GameScenes
