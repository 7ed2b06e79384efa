import GameScenes.Storage.Disk

/-!
# Steps on a disk

Everything that is done to a disk is done in steps, each of which happens or is refused.  A step
is refused by the rules of the disk or, whatever these say, by the host; which steps the host will
refuse is given beforehand.  The journal holds the steps taken and the disk after each of them.
-/

set_option autoImplicit false

namespace GameScenes.Storage

inductive FileStep where
  | makeFolder (place : Place)
  | read (place : Place)
  /-- Makes an empty file, also in the place of another file. -/
  | create (place : Place)
  /-- Fills a file. -/
  | write (place : Place) (content : ByteArray)
  /-- Waits until a file's content is safe. -/
  | flush (place : Place)
  /-- Moves a file, also over another file. -/
  | rename (source target : Place)
  | remove (place : Place)

/-- Asks for a folder that can hold something of the last name of a place. -/
def Disk.requireRoom (disk : Disk) (place : Place) : Except DiskFault Unit :=
  match disk.requireFolder place.dropLast with
  | .error fault => .error fault
  | .ok () =>
      if maxNameBytes < (place.getLast?.getD "").utf8ByteSize then .error .nameTooLong
      else .ok ()

/-- The disk after a step that the host does not refuse. -/
def Disk.after (disk : Disk) : FileStep → Except DiskFault Disk
  | .makeFolder place =>
      match disk.requireRoom place with
      | .error fault => .error fault
      | .ok () =>
          match disk.get? place with
          | none => .ok (disk.put place .folder)
          | some _ => .error .alreadyThere
  | .read place => (disk.content place).map fun _ => disk
  | .create place =>
      match disk.requireRoom place with
      | .error fault => .error fault
      | .ok () =>
          match disk.get? place with
          | some .folder => .error .isFolder
          | _ => .ok (disk.put place (.file ByteArray.empty))
  | .write place content =>
      (disk.content place).map fun _ => disk.put place (.file content)
  | .flush place => (disk.content place).map fun _ => disk
  | .rename source target =>
      match disk.content source with
      | .error fault => .error fault
      | .ok content =>
          match disk.requireRoom target with
          | .error fault => .error fault
          | .ok () =>
              match disk.get? target with
              | some .folder => .error .isFolder
              | _ => .ok ((disk.erase source).put target (.file content))
  | .remove place => (disk.content place).map fun _ => disk.erase place

/-- That the host refuses a step. -/
structure Refusal where
  /-- The words of the host. -/
  message : String
  /-- The number of bytes that reach a file before writing it is refused. -/
  kept : Nat
  deriving DecidableEq, Repr

/-- The disk after a step that the host refuses. -/
def Disk.afterRefusal (disk : Disk) (refusal : Refusal) : FileStep → Disk
  | .write place content =>
      match disk.get? place with
      | some (.file _) => disk.put place (.file (content.extract 0 refusal.kept))
      | _ => disk
  | _ => disk

/-- A step that was taken, whether it happened, and the disk after it. -/
structure Event where
  step : FileStep
  result : Except DiskFault Unit
  disk : Disk

end Storage

/-- A disk that is being worked on. -/
structure Storage where
  disk : Storage.Disk
  /-- Where paths start that are not absolute. -/
  working : Storage.Place
  /-- The steps, counted from zero, that the host refuses. -/
  refusals : Nat → Option Storage.Refusal
  /-- The steps taken, the last one first. -/
  journal : List Storage.Event

namespace Storage

/-- A disk before the first step. -/
def start (disk : Disk) (working : Place) (refusals : Nat → Option Refusal) : Storage :=
  ⟨disk, working, refusals, []⟩

/-- The steps taken in their order. -/
def events (storage : Storage) : List Event := storage.journal.reverse

/-- A storage with one more step in its journal. -/
def record (storage : Storage) (step : FileStep) (result : Except DiskFault Unit)
    (disk : Disk) : Storage :=
  { storage with disk, journal := ⟨step, result, disk⟩ :: storage.journal }

def perform (storage : Storage) (step : FileStep) : Except DiskFault Unit × Storage :=
  match storage.refusals storage.journal.length with
  | some refusal =>
      let result := Except.error (.refused refusal.message)
      (result, storage.record step result (storage.disk.afterRefusal refusal step))
  | none =>
      match storage.disk.after step with
      | .ok disk => (.ok (), storage.record step (.ok ()) disk)
      | .error fault => (.error fault, storage.record step (.error fault) storage.disk)

/-- Takes steps up to the first that does not happen. -/
def performAll (storage : Storage) : List FileStep → Except DiskFault Unit × Storage
  | [] => (.ok (), storage)
  | step :: rest =>
      match storage.perform step with
      | (.error fault, storage) => (.error fault, storage)
      | (.ok (), storage) => storage.performAll rest

end Storage

end GameScenes
