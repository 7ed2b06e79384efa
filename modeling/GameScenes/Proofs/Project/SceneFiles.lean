import GameScenes.Proofs.Project.Places
import GameScenes.Proofs.Storage.FilesLeft

/-!
# What saving a scene does to the scene files

Saving a scene takes two files, one after the other: its own, and then the list of scenes to build,
which is read first.  What becomes of the scene files is settled by the first of them alone.
-/

set_option autoImplicit false

namespace GameScenes.ProjectFolder

open Storage (Keeps Place DiskFault draftName fileIn joinPath)

variable {project : ProjectFolder} {storage after : Storage}

/-- The content of the scene file that has a name without its ending. -/
def sceneFile? (project : ProjectFolder) (storage : Storage) (stem : String) : Option ByteArray :=
  storage.fileAt? (project.scenePlace storage.working stem)

/-! ## Files that are replaced and files that are read -/

theorem save_eq_ok {folder name : String} {value : Json}
    (success : save storage folder name value = (.ok (), after)) :
    after.fileAt? (fileIn storage.working folder name) = some (fileText value).toUTF8 ∧
      Keeps [fileIn storage.working folder (draftName name), fileIn storage.working folder name]
        storage after := by
  simp only [save] at success
  split at success
  · simp at success
  next stopped saved =>
    cases success
    exact Storage.saveFile_eq_ok saved

theorem keeps_of_save_error {folder name : String} {value : Json} {fault : OutputFault}
    (failed : save storage folder name value = (.error fault, after)) :
    Keeps [fileIn storage.working folder (draftName name)] storage after := by
  simp only [save] at failed
  split at failed
  next cause stopped refused =>
    cases failed
    exact Storage.keeps_of_saveFile_error refused
  · simp at failed

theorem keeps_save (storage : Storage) (folder name : String) (value : Json) :
    Keeps [fileIn storage.working folder (draftName name), fileIn storage.working folder name]
      storage (save storage folder name value).2 := by
  cases saved : save storage folder name value with
  | mk result after =>
      cases result with
      | error fault => exact (keeps_of_save_error saved).mono (by simp)
      | ok done => exact (save_eq_ok saved).2

theorem keeps_load {α : Type} (storage : Storage) (path : String) (reader : Json.TypedReader α)
    (missing : α) : Keeps [] storage (load storage path reader missing).2 :=
  (leavesFiles_load storage path reader missing).kept

/-- The places of the list of scenes to build and of its draft. -/
def buildListPlaces (project : ProjectFolder) (working : Place) : List Place :=
  [project.settingsPlace working (draftName buildListName),
    project.settingsPlace working buildListName]

theorem keeps_registerBuildScene (project : ProjectFolder) (path : String) (storage : Storage) :
    Keeps (project.buildListPlaces storage.working) storage
      (project.registerBuildScene path storage).2 := by
  have read := keeps_load storage (joinPath project.settingsFolder buildListName)
    BuildList.reader BuildList.empty
  unfold registerBuildScene loadBuildList
  split
  next loaded =>
    rw [loaded] at read
    exact read.mono (List.nil_subset _)
  next list opened loaded =>
    rw [loaded] at read
    have widened := read.mono (List.nil_subset (project.buildListPlaces storage.working))
    split
    · exact widened
    · have changed := keeps_save opened project.settingsFolder buildListName (list.add path).toJson
      rw [read.working] at changed
      split
      next saved =>
        rw [saved] at changed
        exact widened.trans changed
      next saved =>
        rw [saved] at changed
        exact widened.trans changed

theorem keeps_saveTables (project : ProjectFolder) (tables : Tables) (storage : Storage) :
    Keeps [project.settingsPlace storage.working (draftName tablesName),
      project.settingsPlace storage.working tablesName] storage
      (project.saveTables tables storage).2 :=
  keeps_save storage project.settingsFolder tablesName tables.toJson

/-! ## Scene files -/

theorem sceneFile?_of_keeps {places : List Place} {before : Storage}
    (kept : Keeps places before after) (stem : String)
    (apart : project.scenePlace before.working stem ∉ places) :
    project.sceneFile? after stem = project.sceneFile? before stem := by
  unfold sceneFile?
  rw [kept.working]
  exact kept.files _ apart

theorem scenePlace_not_mem_buildListPlaces (working : Place) (stem : String) :
    project.scenePlace working stem ∉ project.buildListPlaces working := by
  simp [buildListPlaces, scenePlace_ne_settingsPlace]

def saveOwnFile (project : ProjectFolder) (artifact : Scene.Artifact) (storage : Storage) :
    Except OutputFault Unit × Storage :=
  save storage project.scenesFolder (SceneFile.fileName artifact.name) artifact.toJson

/-- The bytes that the own file of a scene is to hold. -/
def sceneBytes (artifact : Scene.Artifact) : ByteArray := (fileText artifact.toJson).toUTF8

theorem saveOwnFile_eq_ok {artifact : Scene.Artifact}
    (success : project.saveOwnFile artifact storage = (.ok (), after)) :
    after.fileAt? (project.scenePlace storage.working (SceneFile.safeName artifact.name)) =
        some (sceneBytes artifact) ∧
      Keeps [project.sceneDraftPlace storage.working (SceneFile.safeName artifact.name),
        project.scenePlace storage.working (SceneFile.safeName artifact.name)] storage after :=
  save_eq_ok success

theorem keeps_of_saveOwnFile_error {artifact : Scene.Artifact} {fault : OutputFault}
    (failed : project.saveOwnFile artifact storage = (.error fault, after)) :
    Keeps [project.sceneDraftPlace storage.working (SceneFile.safeName artifact.name)] storage
      after :=
  keeps_of_save_error failed

theorem saveScene_of_own_error {artifact : Scene.Artifact} {fault : OutputFault}
    (failed : project.saveOwnFile artifact storage = (.error fault, after)) :
    project.saveScene artifact storage = (.error fault, after) := by
  unfold saveOwnFile at failed
  unfold saveScene
  dsimp only
  rw [failed]

theorem saveScene_of_own_ok {artifact : Scene.Artifact} {saved : Storage}
    (success : project.saveOwnFile artifact storage = (.ok (), saved)) :
    (project.saveScene artifact storage).2 =
        (project.registerBuildScene (SceneFile.relativePath artifact.name) saved).2 ∧
      (project.saveScene artifact storage).1 =
        (project.registerBuildScene (SceneFile.relativePath artifact.name) saved).1.map
          fun addedToBuild =>
            ⟨artifact.name, joinPath project.scenesFolder (SceneFile.fileName artifact.name),
              SceneFile.relativePath artifact.name, addedToBuild⟩ := by
  unfold saveOwnFile at success
  unfold saveScene
  dsimp only
  rw [success]
  dsimp only
  generalize project.registerBuildScene (SceneFile.relativePath artifact.name) saved = registered
  obtain ⟨result, after⟩ := registered
  cases result with
  | error fault => exact ⟨rfl, rfl⟩
  | ok added => exact ⟨rfl, rfl⟩

theorem saveScene_name {artifact : Scene.Artifact} {saved : SavedScene}
    (success : project.saveScene artifact storage = (.ok saved, after)) :
    saved.name = artifact.name := by
  unfold saveScene at success
  dsimp only at success
  split at success
  · cases success
  · split at success <;> cases success
    rfl

theorem saveScene_relativePath {artifact : Scene.Artifact} {saved : SavedScene}
    (success : project.saveScene artifact storage = (.ok saved, after)) :
    saved.relativePath = SceneFile.relativePath artifact.name := by
  unfold saveScene at success
  dsimp only at success
  split at success
  · cases success
  · split at success <;> cases success
    rfl

/-- A scene file that could not be saved is as it was, and so are all others. -/
theorem sceneFile?_of_own_error {artifact : Scene.Artifact} {fault : OutputFault}
    (failed : project.saveOwnFile artifact storage = (.error fault, after)) (stem : String) :
    project.sceneFile? after stem = project.sceneFile? storage stem := by
  apply sceneFile?_of_keeps (keeps_of_saveOwnFile_error failed)
  rw [List.mem_singleton]
  exact scenePlace_ne_sceneDraftPlace project storage.working stem _

/-- A scene file that was saved holds the scene, whatever becomes of the list of scenes; all other
scene files are as they were. -/
theorem sceneFile?_of_own_ok {artifact : Scene.Artifact} {saved : Storage}
    (success : project.saveOwnFile artifact storage = (.ok (), saved)) (stem : String) :
    project.sceneFile? (project.saveScene artifact storage).2 stem =
      if stem = SceneFile.safeName artifact.name then some (sceneBytes artifact)
      else project.sceneFile? storage stem := by
  obtain ⟨written, kept⟩ := saveOwnFile_eq_ok success
  rw [(saveScene_of_own_ok success).1, sceneFile?_of_keeps
    (keeps_registerBuildScene project _ saved) stem
    (scenePlace_not_mem_buildListPlaces saved.working stem)]
  split
  next same =>
    unfold sceneFile?
    rw [kept.working, same]
    exact written
  next other =>
    apply sceneFile?_of_keeps kept
    simp only [List.mem_cons, List.not_mem_nil, or_false, not_or]
    exact ⟨scenePlace_ne_sceneDraftPlace project storage.working stem _,
      fun same => other ((scenePlace_inj project storage.working stem _).mp same)⟩

end GameScenes.ProjectFolder
