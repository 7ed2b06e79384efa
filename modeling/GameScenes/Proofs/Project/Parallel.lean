import GameScenes.Proofs.Asset.Images
import GameScenes.Proofs.Storage.Parallel

/-!
# Two projects side by side

Two runs save a scene or the tables into matching projects: in both of them or in neither, and the
projects match afterwards (`Tolerates.saveScene`, `saveTables_agree`).  The list of scenes to build
is the same in both.  Contents may differ in files only that hold no image, so that a store which
looks for images answers the same (`AssetFolders.store_of_matches`).
-/

set_option autoImplicit false

namespace GameScenes

open Storage (Agree Disk Fits Keeps Nearness Parallel Place draftName fileIn joinPath placeOf)

/-! ## Stores -/

/-- That contents may differ unless the name of the file tells the form of an image. -/
def sameImages : Nearness := fun place bytes others =>
  Image.Format.ofName? (place.getLast?.getD "") ≠ none → bytes = others

/-- A store that looks for the images of folders answers the same for disks that hold the same files
and, in those with the name of an image, the same contents. -/
theorem AssetFolders.store_of_matches (folders : AssetFolders) {disk other : Disk}
    (disks : disk.Matches sameImages other) (working : Place) :
    folders.store disk working = folders.store other working := by
  have probes : ∀ path, probePath disk working path = probePath other working path := by
    intro path
    unfold probePath
    rw [disks.locate]
    split
    · rfl
    · next place _ =>
        rcases disks.cases_at place with
          ⟨left, right⟩ | ⟨left, right⟩ | ⟨bytes, others, agree, left, right⟩
        · rw [left, right]
        · rw [left, right]
        · rw [left, right]
          dsimp only
          by_cases formless : Image.Format.ofName? (place.getLast?.getD "") = none
          · simp only [Image.size, formless]
          · rw [agree formless]
  unfold AssetFolders.store
  simp only [probes]

namespace ProjectFolder

variable {project : ProjectFolder} {near : Nearness} {s t : Storage}

/-! ## Reading and saving -/

theorem load_agree {α : Type} (both : Parallel near s t) {path : String}
    (strict : ∀ bytes others, near (placeOf s.working path) bytes others → bytes = others)
    (reader : Json.TypedReader α) (missing : α) :
    Agree near near (load s path reader missing) (load t path reader missing) := by
  have texts := both.readText path strict
  unfold load
  generalize s.readText path = left at texts ⊢
  generalize t.readText path = right at texts ⊢
  cases texts with
  | failed fault both =>
      cases fault with
      | notFound => exact .done _ both
      | _ => exact .failed _ both
  | done text both =>
      dsimp only
      split
      · exact .done _ both
      · exact .failed _ both

theorem save_agree (both : Parallel near s t) {folder name : String} {value again : Json}
    (fits : Fits near (placeOf s.working folder) name (fileText value).toUTF8
      (fileText again).toUTF8) :
    Agree near near (save s folder name value) (save t folder name again) := by
  have files := both.saveFile folder fits
  unfold save
  generalize s.saveFile folder name (fileText value).toUTF8 = left at files ⊢
  generalize t.saveFile folder name (fileText again).toUTF8 = right at files ⊢
  cases files with
  | failed fault both => exact .failed _ both
  | done result both => exact .done _ both

/-- The bytes that the file of the tables is to hold. -/
def tablesBytes (tables : Tables) : ByteArray := (fileText tables.toJson).toUTF8

/-- The tables are saved in both projects or in neither. -/
theorem saveTables_agree (both : Parallel near s t) {tables again : Tables}
    (fits : Fits near (placeOf s.working project.settingsFolder) tablesName (tablesBytes tables)
      (tablesBytes again)) :
    Agree near near (project.saveTables tables s) (project.saveTables again t) :=
  save_agree both fits

/-- Opening a project changes none of its files. -/
theorem keeps_opened {storage made opened : Storage} {tables : Tables}
    (folders : project.makeFolders storage = (.ok (), made))
    (loaded : project.loadTables made = (.ok tables, opened)) : Keeps [] storage opened := by
  have first := (project.leavesFiles_makeFolders storage).kept
  have second := keeps_load made (joinPath project.settingsFolder tablesName) Tables.reader
    Tables.builtin
  unfold loadTables at loaded
  rw [folders] at first
  rw [loaded] at second
  exact first.trans second

theorem saveScene_working (project : ProjectFolder) (artifact : Scene.Artifact) (storage : Storage) :
    (project.saveScene artifact storage).2.working = storage.working := by
  generalize own : project.saveOwnFile artifact storage = result
  obtain ⟨done, saved⟩ := result
  cases done with
  | error fault =>
      rw [saveScene_of_own_error own]
      exact (keeps_of_saveOwnFile_error own).working
  | ok done =>
      rw [(saveScene_of_own_ok own).1]
      exact (keeps_registerBuildScene project _ saved).working.trans
        (saveOwnFile_eq_ok own).2.working

/-- That files of a project are among those that may differ only where nothing reads them: neither
images nor the list of scenes to build. -/
structure Tolerates (project : ProjectFolder) (near : Nearness) (working : Place) : Prop where
  same : ∀ place bytes, near place bytes bytes
  images : ∀ place bytes others, near place bytes others → sameImages place bytes others
  buildList : ∀ bytes others, near (project.settingsPlace working buildListName) bytes others →
    bytes = others

namespace Tolerates

variable (tolerates : project.Tolerates near s.working)
include tolerates

/-- A scene is added to the list of scenes to build in both projects or in neither. -/
theorem registerBuildScene (both : Parallel near s t) (path : String) :
    Agree near near (project.registerBuildScene path s) (project.registerBuildScene path t) := by
  have place := project.placeOf_settings s.working (show Storage.IsPlain buildListName by decide)
  have lists := load_agree both (place ▸ tolerates.buildList) BuildList.reader BuildList.empty
  have working := (keeps_load s (joinPath project.settingsFolder buildListName)
    BuildList.reader BuildList.empty).working
  unfold ProjectFolder.registerBuildScene loadBuildList
  generalize load s _ BuildList.reader BuildList.empty = left at lists working ⊢
  generalize load t _ BuildList.reader BuildList.empty = right at lists ⊢
  cases lists with
  | failed fault both => exact .failed _ both
  | @done list opened reopened both =>
      dsimp only
      split
      · exact .done _ both
      · have saved := save_agree both (.of_eq tolerates.same (placeOf opened.working
          project.settingsFolder) buildListName (fileText (list.add path).toJson).toUTF8)
        generalize save opened _ _ _ = left at saved ⊢
        generalize save reopened _ _ _ = right at saved ⊢
        cases saved with
        | failed fault both => exact .failed _ both
        | done result both => exact .done _ both

/-- Scenes of one name are saved in both projects or in neither. -/
theorem saveScene (both : Parallel near s t) {artifact again : Scene.Artifact}
    (name : again.name = artifact.name)
    (fits : Fits near (placeOf s.working project.scenesFolder) (SceneFile.fileName artifact.name)
      (sceneBytes artifact) (sceneBytes again)) :
    Agree near near (project.saveScene artifact s) (project.saveScene again t) := by
  have files := save_agree both fits
  have working := (keeps_save s project.scenesFolder (SceneFile.fileName artifact.name)
    artifact.toJson).working
  unfold ProjectFolder.saveScene
  rw [name]
  dsimp only
  generalize save s project.scenesFolder (SceneFile.fileName artifact.name) artifact.toJson = left
    at files working ⊢
  generalize save t project.scenesFolder (SceneFile.fileName artifact.name) again.toJson = right
    at files ⊢
  cases files with
  | failed fault both => exact .failed _ both
  | @done result stored kept both =>
      dsimp only at working ⊢
      rw [← working] at tolerates
      have listed := tolerates.registerBuildScene both (SceneFile.relativePath artifact.name)
      generalize project.registerBuildScene _ stored = left at listed ⊢
      generalize project.registerBuildScene _ kept = right at listed ⊢
      cases listed with
      | failed fault both => exact .failed _ both
      | done added both => exact .done _ both

end Tolerates

end ProjectFolder

end GameScenes
