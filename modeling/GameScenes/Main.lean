import GameScenes.CommandLine

/-!
# The program

The library works on a disk that is a value.  The program copies to this disk what a command asks
for, runs the command, and takes the steps of its journal on the real disk.  A step that the real
disk refuses is told to the command, which is run again from the start and goes on differently
after this step.
-/

set_option autoImplicit false

namespace GameScenes.Program

open Build (Outcome)
open CommandLine (Command Shown)
open Storage (Disk Entry Event FileStep Place Refusal)

def pathOf (place : Place) : String := "/" ++ String.intercalate "/" place

/-- What is at a place of the real disk.  A file that may not be read looks empty. -/
def look (place : Place) : IO (Option Entry) := do
  try
    return some (.file (← IO.FS.readBinFile (pathOf place)))
  catch
    | .noFileOrDirectory .. => return none
    | .inappropriateType _ code _ => return if code = 21 then some .folder else none
    | _ => return some (.file ByteArray.empty)

def learn (disk : Disk) (places : List Place) : IO Disk :=
  places.eraseDups.foldlM (fun disk place => do
    if (disk.get? place).isSome then return disk
    match ← look place with
    | some entry => return disk.put place entry
    | none => return disk) disk

def placesOf : FileStep → List Place
  | .makeFolder place | .read place | .create place => [place]
  | .write place _ | .flush place | .remove place => [place]
  | .rename source target => [source, target]

/-- The places that a command is sure to ask for. -/
def placesBefore (working : Place) (command : Command) : List Place :=
  let project : ProjectFolder := ⟨command.project⟩
  [command.spec, project.scenesFolder,
    Storage.joinPath project.settingsFolder ProjectFolder.tablesName,
    Storage.joinPath project.settingsFolder ProjectFolder.buildListName].flatMap
      (Storage.placesOn working)

/-- The places that a run of a command asked for. -/
def placesAfter (working : Place) (command : Command) (outcome : Outcome) : List Place :=
  let folders : AssetFolders := ⟨command.project, command.assetsFallback⟩
  (outcome.storage.events.flatMap fun event => placesOf event.step) ++
    (outcome.asked.filterMap folders.path?).flatMap (Storage.placesOn working)

/-- Takes a step on the real disk. -/
def take : FileStep → IO Unit
  | .makeFolder place => IO.FS.createDir (pathOf place)
  | .read place => discard (IO.FS.readBinFile (pathOf place))
  | .create place => IO.FS.writeBinFile (pathOf place) ByteArray.empty
  | .write place content => IO.FS.writeBinFile (pathOf place) content
  | .flush place => do (← IO.FS.Handle.mk (pathOf place) .append).flush
  | .rename source target => IO.FS.rename (pathOf source) (pathOf target)
  | .remove place => IO.FS.removeFile (pathOf place)

/-- The first line of the words of the real disk. -/
def wordsOf (error : IO.Error) : String :=
  String.ofList ((toString error).toList.takeWhile (· ≠ '\n'))

/-- Takes the steps that happened in a journal, from a position on, up to the first one that the
real disk refuses. -/
def takeAll : Nat → List Event → IO (Option (Nat × Refusal))
  | _, [] => return none
  | position, event :: rest => do
      match event.result with
      | .error _ => takeAll (position + 1) rest
      | .ok () =>
          let refused ← try take event.step; pure none
            catch error => pure (some (position, ⟨wordsOf error, 0⟩))
          match refused with
          | some refusal => return some refusal
          | none => takeAll (position + 1) rest

/-- Runs something until the real disk refuses no further step of its journal. -/
partial def settle (run : (Nat → Option Refusal) → Outcome) (refusals : List (Nat × Refusal))
    (taken : Nat) : IO Outcome := do
  let outcome := run fun position => refusals.lookup position
  match ← takeAll taken (outcome.storage.events.drop taken) with
  | none => return outcome
  | some (position, refusal) => settle run ((position, refusal) :: refusals) (position + 1)

/-- Runs a command on the real disk. -/
def execute (command : Command) : IO Shown := do
  let seed ← IO.rand 0 4294967295
  let draws : Draws := ⟨fun n => (mixHash (UInt64.ofNat seed) (UInt64.ofNat n)).toUInt32, 0⟩
  let working := (Text.pathParts (← IO.currentDir).toString).filter (· ≠ "")
  let run (disk : Disk) (refusals : Nat → Option Refusal) : Outcome :=
    command.run draws (Storage.start disk working refusals)
  let disk ← learn Disk.empty (Storage.wayTo working ++ placesBefore working command)
  let disk ← learn disk (placesAfter working command (run disk fun _ => none))
  let outcome ← settle (run disk) [] 0
  return CommandLine.showOutcome command outcome

end GameScenes.Program

open GameScenes in
def main (arguments : List String) : IO UInt32 := do
  let project ← IO.getEnv CommandLine.projectVariable
  let shown ← match CommandLine.read arguments project with
    | .ok (.compile command) => Program.execute command
    | .ok .help => pure CommandLine.showHelp
    | .error fault => pure (CommandLine.showFault fault)
  IO.print shown.output
  IO.eprint shown.errors
  return shown.exitCode
