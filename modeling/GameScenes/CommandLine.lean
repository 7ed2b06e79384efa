import GameScenes.Build.Game

/-!
# The command line

Arguments are flags, some of which are followed by a value; a value may look like a flag.  They
are read from left to right, and the first fault or request for help ends reading.  A command is
run on a storage and gives its exit code and what it prints.
-/

set_option autoImplicit false

namespace GameScenes.CommandLine

open Build (Options Outcome Report)

def usage : String :=
  String.intercalate "\n"
    ["scenegen - compile a declarative game spec into scene artifacts",
      "",
      "Usage:",
      "  scenegen --spec <file> [--project <dir>] [--assets-fallback <dir>] " ++
        "[--prefer <module>]... [--json]",
      "",
      "Defaults:",
      "  --project $SCENEGEN_PROJECT_ROOT, else the current directory",
      "",
      "Exit codes:",
      "  0 all scenes saved, 1 fatal error, 2 some scenes aborted or run cancelled"]

/-- The variable of the environment that names the usual project. -/
def projectVariable : String := "SCENEGEN_PROJECT_ROOT"

/-! ## Arguments -/

structure Flags where
  spec : Option String
  project : Option String
  assetsFallback : Option String
  prefer : List String
  json : Bool
  deriving DecidableEq, Repr

/-- What holds without flags. -/
def Flags.initial : Flags := ⟨none, none, none, [], false⟩

/-- Why arguments are refused. -/
inductive ArgumentFault where
  | unknown (word : String)
  | missingValue (flag : String)
  | missingSpec
  deriving DecidableEq, Repr

def ArgumentFault.message : ArgumentFault → String
  | unknown word => "unknown argument '" ++ word ++ "'"
  | missingValue flag => "missing value for " ++ flag
  | missingSpec => "missing required --spec <file>"

/-- The flags that are followed by a value, each with what the value says. -/
def withValue? : String → Option (String → Flags → Flags)
  | "--spec" => some fun value flags => { flags with spec := some value }
  | "--project" => some fun value flags => { flags with project := some value }
  | "--assets-fallback" => some fun value flags => { flags with assetsFallback := some value }
  | "--prefer" => some fun value flags => { flags with prefer := flags.prefer ++ [value] }
  | _ => none

/-- What words say after other flags; nothing when they ask for help. -/
def readFlags (flags : Flags) : List String → Except ArgumentFault (Option Flags)
  | [] => .ok (some flags)
  | word :: rest =>
      if word = "-h" ∨ word = "--help" then .ok none
      else if word = "--json" then readFlags { flags with json := true } rest
      else
        match withValue? word, rest with
        | none, _ => .error (.unknown word)
        | some _, [] => .error (.missingValue word)
        | some put, value :: rest => readFlags (put value flags) rest

structure Command where
  spec : String
  project : String
  assetsFallback : Option String
  prefer : List String
  json : Bool
  deriving DecidableEq, Repr

/-- What arguments ask for. -/
inductive Request where
  | help
  | compile (command : Command)
  deriving DecidableEq, Repr

/-- What arguments ask for, with the project that the environment names. -/
def read (arguments : List String) (usualProject : Option String) :
    Except ArgumentFault Request :=
  match readFlags Flags.initial arguments with
  | .error fault => .error fault
  | .ok none => .ok .help
  | .ok (some flags) =>
      match flags.spec with
      | none => .error .missingSpec
      | some spec =>
          .ok (.compile
            { spec
              project := (flags.project.or usualProject).getD "."
              assetsFallback := flags.assetsFallback
              prefer := flags.prefer
              json := flags.json })

/-! ## Runs -/

/-- What a run of the program shows. -/
structure Shown where
  exitCode : UInt32
  output : String
  errors : String
  deriving DecidableEq, Repr

/-- Text that ends its line. -/
def line (s : String) : String := s ++ "\n"

def showFault (fault : ArgumentFault) : Shown :=
  ⟨1, "", line (fault.message ++ "\n\n" ++ usage)⟩

def showHelp : Shown := ⟨0, line usage, ""⟩

def showReport (command : Command) (report : Report) : Shown :=
  { exitCode := if report.aborted.isEmpty && !report.cancelled then 0 else 2
    output := if command.json then line report.toJson.pretty
      else String.join (report.lines.map line)
    errors := "" }

def showOutcome (command : Command) (outcome : Outcome) : Shown :=
  match outcome.result with
  | .ok report => showReport command report
  | .error fault => ⟨1, "", line ("scenegen: " ++ fault.message)⟩

/-- What a run of the compiler is asked to do by a command. -/
def Command.options (command : Command) : Options :=
  { project := ⟨command.project⟩
    precedence := command.prefer
    catalogs := []
    compilerVersion := Build.currentVersion }

def Command.run (command : Command) (draws : Draws) (storage : Storage) : Outcome :=
  Build.compileGameFile command.options command.assetsFallback draws storage command.spec

/-- What the program shows for its arguments, and the storage afterwards. -/
def run (arguments : List String) (usualProject : Option String) (draws : Draws)
    (storage : Storage) : Shown × Storage :=
  match read arguments usualProject with
  | .error fault => (showFault fault, storage)
  | .ok .help => (showHelp, storage)
  | .ok (.compile command) =>
      let outcome := command.run draws storage
      (showOutcome command outcome, outcome.storage)

end GameScenes.CommandLine
