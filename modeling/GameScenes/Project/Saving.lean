import GameScenes.Project.BuildList
import GameScenes.Project.SceneFile
import GameScenes.Project.TablesFile
import GameScenes.Scene.Encoding
import GameScenes.Storage.Access

/-!
# Projects on a disk

A project keeps its scenes in one folder, and its tables and its list of scenes to build in
another.  A file that is missing stands for that of a new project.  Files are replaced as a whole.
-/

set_option autoImplicit false

namespace GameScenes

open Storage (DiskFault joinPath)

/-- Why the files of a project could not be used. -/
inductive OutputFault where
  | makeFolder (path : String) (cause : DiskFault)
  | read (path : String) (cause : DiskFault)
  | write (path : String) (cause : DiskFault)
  | decode (path : String) (cause : Json.TypedFault)

def OutputFault.message : OutputFault → String
  | makeFolder path cause => "failed to create directory " ++ path ++ ": " ++ cause.message
  | read path cause => "failed to read " ++ path ++ ": " ++ cause.message
  | write path cause => "failed to write " ++ path ++ ": " ++ cause.message
  | decode path cause => "failed to decode " ++ path ++ ": " ++ cause.message

structure ProjectFolder where
  root : String
  deriving DecidableEq, Repr

namespace ProjectFolder

def scenesFolder (project : ProjectFolder) : String :=
  joinPath (joinPath project.root "Assets") "Scenes"

def settingsFolder (project : ProjectFolder) : String := joinPath project.root "ProjectSettings"

def tablesName : String := "TagManager.json"

def buildListName : String := "EditorBuildSettings.json"

def makeFolders (project : ProjectFolder) (storage : Storage) :
    Except OutputFault Unit × Storage :=
  match storage.makeFolders project.scenesFolder with
  | (.error cause, storage) => (.error (.makeFolder project.scenesFolder cause), storage)
  | (.ok _, storage) =>
      match storage.makeFolders project.settingsFolder with
      | (.error cause, storage) => (.error (.makeFolder project.settingsFolder cause), storage)
      | (.ok _, storage) => (.ok (), storage)

/-- What the file with a path holds. -/
def load {α : Type} (storage : Storage) (path : String) (reader : Json.TypedReader α)
    (missing : α) : Except OutputFault α × Storage :=
  match storage.readText path with
  | (.error .notFound, storage) => (.ok missing, storage)
  | (.error cause, storage) => (.error (.read path cause), storage)
  | (.ok s, storage) =>
      match reader.whole s with
      | .ok a => (.ok a, storage)
      | .error cause => (.error (.decode path cause), storage)

def fileText (value : Json) : String := value.pretty ++ "\n"

/-- Puts a value into the file with a name. -/
def save (storage : Storage) (folder name : String) (value : Json) :
    Except OutputFault Unit × Storage :=
  match storage.saveFile folder name (fileText value).toUTF8 with
  | (.error cause, storage) => (.error (.write (joinPath folder name) cause), storage)
  | (.ok (), storage) => (.ok (), storage)

/-! ## Tables -/

def loadTables (project : ProjectFolder) (storage : Storage) :
    Except OutputFault Tables × Storage :=
  load storage (joinPath project.settingsFolder tablesName) Tables.reader Tables.builtin

def saveTables (project : ProjectFolder) (tables : Tables) (storage : Storage) :
    Except OutputFault Unit × Storage :=
  save storage project.settingsFolder tablesName tables.toJson

/-! ## Scenes to build -/

def loadBuildList (project : ProjectFolder) (storage : Storage) :
    Except OutputFault BuildList × Storage :=
  load storage (joinPath project.settingsFolder buildListName) BuildList.reader BuildList.empty

/-- Makes sure that a path is listed, and says whether it was added. -/
def registerBuildScene (project : ProjectFolder) (path : String) (storage : Storage) :
    Except OutputFault Bool × Storage :=
  match project.loadBuildList storage with
  | (.error fault, storage) => (.error fault, storage)
  | (.ok list, storage) =>
      if list.lists path then (.ok false, storage)
      else
        match save storage project.settingsFolder buildListName (list.add path).toJson with
        | (.error fault, storage) => (.error fault, storage)
        | (.ok (), storage) => (.ok true, storage)

end ProjectFolder

/-! ## Scenes -/

structure SavedScene where
  name : String
  path : String
  relativePath : String
  /-- Whether the scene was not listed before. -/
  addedToBuild : Bool
  deriving DecidableEq, Repr

/-- Saves a scene and makes sure that it is listed. -/
def ProjectFolder.saveScene (project : ProjectFolder) (artifact : Scene.Artifact)
    (storage : Storage) : Except OutputFault SavedScene × Storage :=
  let name := SceneFile.fileName artifact.name
  let relativePath := SceneFile.relativePath artifact.name
  match save storage project.scenesFolder name artifact.toJson with
  | (.error fault, storage) => (.error fault, storage)
  | (.ok (), storage) =>
      match project.registerBuildScene relativePath storage with
      | (.error fault, storage) => (.error fault, storage)
      | (.ok addedToBuild, storage) =>
          (.ok ⟨artifact.name, joinPath project.scenesFolder name, relativePath, addedToBuild⟩,
            storage)

end GameScenes
