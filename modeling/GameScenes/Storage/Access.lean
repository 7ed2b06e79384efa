import GameScenes.Storage.Journal

/-!
# Files and folders

Reading a file, making the folders on a path, and saving a file so that nobody ever finds half of
it: the content is first written to a draft beside the file and then moved over it.  When a step
of saving does not happen, the draft is removed and the file is as it was.
-/

set_option autoImplicit false

namespace GameScenes.Storage

/-- The content of the file that a path leads to. -/
def readFile (storage : Storage) (path : String) : Except DiskFault ByteArray × Storage :=
  match storage.disk.locate storage.working path with
  | .error fault => (.error fault, storage)
  | .ok place =>
      match storage.perform (.read place) with
      | (.error fault, storage) => (.error fault, storage)
      | (.ok (), storage) => (storage.disk.content place, storage)

/-- The text of the file that a path leads to. -/
def readText (storage : Storage) (path : String) : Except DiskFault String × Storage :=
  match storage.readFile path with
  | (.error fault, storage) => (.error fault, storage)
  | (.ok bytes, storage) =>
      match String.fromUTF8? bytes with
      | some text => (.ok text, storage)
      | none => (.error .notText, storage)

/-- Makes the missing folders on the way along parts of a path. -/
def makeFoldersFrom (storage : Storage) (place : Place) :
    List String → Except DiskFault Place × Storage
  | [] => (.ok place, storage)
  | part :: rest =>
      let next := enter place part
      match storage.disk.get? next with
      | some .folder => storage.makeFoldersFrom next rest
      | some (.file _) => (.error (if rest = [] then .alreadyThere else .notFolder), storage)
      | none =>
          match storage.perform (.makeFolder next) with
          | (.error fault, storage) => (.error fault, storage)
          | (.ok (), storage) => storage.makeFoldersFrom next rest

/-- Makes the missing folders on the way along a path. -/
def makeFolders (storage : Storage) (path : String) : Except DiskFault Place × Storage :=
  match checkPath path with
  | .error fault => (.error fault, storage)
  | .ok () => storage.makeFoldersFrom (startOf storage.working path) (Text.pathParts path)

def draftName (name : String) : String := "." ++ name ++ ".partial"

def saveSteps (folder : Place) (name : String) (content : ByteArray) : List FileStep :=
  let draft := folder ++ [draftName name]
  [.create draft, .write draft content, .flush draft, .rename draft (folder ++ [name])]

def saveIn (storage : Storage) (folder : Place) (name : String) (content : ByteArray) :
    Except DiskFault Unit × Storage :=
  match storage.performAll (saveSteps folder name content) with
  | (.ok (), storage) => (.ok (), storage)
  | (.error fault, storage) =>
      (.error fault, (storage.perform (.remove (folder ++ [draftName name]))).2)

/-- Saves a file in the folder that a path leads to and makes this folder if it is missing. -/
def saveFile (storage : Storage) (folder name : String) (content : ByteArray) :
    Except DiskFault Unit × Storage :=
  match storage.makeFolders folder with
  | (.error fault, storage) => (.error fault, storage)
  | (.ok place, storage) =>
      match checkPath (joinPath folder (draftName name)) with
      | .error fault => (.error fault, storage)
      | .ok () => storage.saveIn place name content

end GameScenes.Storage
