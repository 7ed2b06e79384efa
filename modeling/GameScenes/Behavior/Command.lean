import GameScenes.Behavior.Coercion

/-!
# Commands of buttons

A button names a command with arguments.  Preparing an action checks it against the table of
commands: every parameter of the command has to be given, nothing else may be, and the command may
have conditions of its own.
-/

set_option autoImplicit false

namespace GameScenes.Behavior

open Document (Action)
open Scene (ButtonAction)

/-- The reason for which a command refuses its arguments, given the names of the scenes. -/
abbrev ArgumentRefusal := Dictionary FieldValue → List String → Option String

structure Command where
  name : String
  params : List FieldSchema
  refusal : ArgumentRefusal

/-- Why an action cannot be prepared. -/
inductive CommandFault where
  | unknown (command : String)
  | unknownParameter (command param : String)
  | missingParameter (command param : String)
  | invalidArgument (command param : String) (cause : CoercionFault)
  | rejected (command reason : String)

def CommandFault.message : CommandFault → String
  | unknown command => "no UI command named '" ++ command ++ "' is registered"
  | unknownParameter command param =>
      "UI command '" ++ command ++ "' has no parameter '" ++ param ++ "'"
  | missingParameter command param =>
      "UI command '" ++ command ++ "' is missing parameter '" ++ param ++ "'"
  | invalidArgument command param cause =>
      "UI command '" ++ command ++ "' parameter '" ++ param ++ "': " ++ cause.message
  | rejected command reason =>
      "UI command '" ++ command ++ "' rejected its arguments: " ++ reason

/-- The commands that actions may name. -/
structure CommandTable where
  commands : List Command

namespace CommandTable

def empty : CommandTable := ⟨[]⟩

/-- A table with a command in place of those with the same name up to the case of letters. -/
def register (table : CommandTable) (command : Command) : CommandTable :=
  ⟨table.commands.filter (fun c => !Text.sameLetters c.name command.name) ++ [command]⟩

/-- The command with a name: the exact one, or else the first one up to the case of letters. -/
def find? (table : CommandTable) (raw : String) : Option Command :=
  let name := Text.trim raw
  (table.commands.find? (·.name == name)).or
    (table.commands.find? fun c => Text.sameLetters c.name name)

def size (table : CommandTable) : Nat := table.commands.length

end CommandTable

/-- The first argument that belongs to no parameter. -/
def strayArgument? (command : Command) (args : List (String × Json)) : Option String :=
  (args.find? fun (key, _) => !command.params.any fun p => Text.sameLetters p.name key).map (·.1)

/-- The argument of a parameter: the first one with its name up to the case of letters, unless it
is `null`. -/
def argument? (args : List (String × Json)) (param : FieldSchema) : Option Json :=
  ((args.find? fun (key, _) => Text.sameLetters key param.name).map (·.2)).filter
    fun j => !j.isNull

/-- The values of parameters, put into a dictionary one after the other. -/
def coerceArguments (command : String) (args : List (String × Json)) :
    Dictionary FieldValue → List FieldSchema → Except CommandFault (Dictionary FieldValue)
  | values, [] => .ok values
  | values, param :: rest =>
      match argument? args param with
      | none => .error (.missingParameter command param.name)
      | some raw =>
          match coerce Scene.Graph.empty LayerTable.builtin none param.kind raw with
          | .error cause => .error (.invalidArgument command param.name cause)
          | .ok value => coerceArguments command args (values.insert param.name value) rest

/-- Checks an action against the table. -/
def CommandTable.prepare (table : CommandTable) (sceneNames : List String) (action : Action) :
    Except CommandFault ButtonAction :=
  match table.find? action.command with
  | none => .error (.unknown action.command)
  | some command =>
      match strayArgument? command action.args with
      | some key => .error (.unknownParameter command.name key)
      | none =>
          match coerceArguments command.name action.args Dictionary.empty command.params with
          | .error fault => .error fault
          | .ok values =>
              match command.refusal values sceneNames with
              | some reason => .error (.rejected command.name reason)
              | none => .ok ⟨command.name, values.entries⟩

/-! ## Commands that are always there -/

def acceptArguments : ArgumentRefusal := fun _ _ => none

/-- The argument `scene` has to name a scene of the document. -/
def requireScene : ArgumentRefusal := fun values sceneNames =>
  match values.get? "scene" with
  | some (.text scene) =>
      if sceneNames.contains scene then none
      else some ("scene '" ++ scene ++ "' is not defined in this document")
  | _ => some "scene must be text"

def builtinCommands : CommandTable :=
  [⟨"LoadScene", [⟨"scene", .text⟩], requireScene⟩, ⟨"ReloadScene", [], acceptArguments⟩,
    ⟨"Quit", [], acceptArguments⟩, ⟨"SetPaused", [⟨"paused", .bool⟩], acceptArguments⟩].foldl
    CommandTable.register CommandTable.empty

end GameScenes.Behavior
