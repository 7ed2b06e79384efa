import GameScenes.Asset.Image
import GameScenes.Asset.Import
import GameScenes.Storage.Disk

/-!
# Assets on a disk

The assets of a project lie below its folder; a second folder may hold further ones under their
file names.
-/

set_option autoImplicit false

namespace GameScenes

open Storage (Disk Place joinPath)

structure AssetFolders where
  project : String
  secondary : Option String
  deriving DecidableEq, Repr

namespace AssetFolders

def path? (folders : AssetFolders) : AssetCandidate → Option String
  | .project path => some (joinPath folders.project path)
  | .secondary name => folders.secondary.map fun folder => joinPath folder name

/-- The size of the image that a path leads to, or nothing where there is no file. -/
def probePath (disk : Disk) (working : Place) (path : String) :
    Except AssetFault (Option PixelSize) :=
  match disk.locate working path with
  | .error _ => .ok none
  | .ok place =>
      match disk.get? place with
      | some (.file bytes) =>
          match Image.size (place.getLast?.getD "") bytes with
          | .ok size => .ok (some size)
          | .error fault => .error (.unreadable path fault.message)
      | _ => .ok none

def store (folders : AssetFolders) (disk : Disk) (working : Place) : AssetStore where
  probe candidate :=
    match folders.path? candidate with
    | none => .ok none
    | some path => probePath disk working path
  describe candidate := (folders.path? candidate).getD "<no secondary root>"

end AssetFolders

end GameScenes
