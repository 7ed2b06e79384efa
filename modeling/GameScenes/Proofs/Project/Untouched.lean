import GameScenes.Proofs.Project.Again

/-!
# Settings that stay as they are

Saving a scene that is listed already does not write the list of scenes to build, and saving the
tables that are held already writes what is there.  Both hold on a host that refuses steps as well:
a step that is refused leaves these files alone.
-/

set_option autoImplicit false

namespace GameScenes.Storage

/-! ## Reading -/

theorem perform_read_disk (storage : Storage) (place : Place) :
    (storage.perform (.read place)).2.disk = storage.disk := by
  simp only [perform]
  split
  · rfl
  · split
    next disk allowed =>
      simp only [Disk.after] at allowed
      exact (Disk.map_content_eq_ok allowed).1
    · rfl

theorem readText_disk (storage : Storage) (path : String) :
    (storage.readText path).2.disk = storage.disk := by
  have file : (storage.readFile path).2.disk = storage.disk := by
    simp only [readFile]
    split
    · rfl
    next place _ =>
      have same := perform_read_disk storage place
      split
      next performed => rwa [performed] at same
      next performed => rwa [performed] at same
  simp only [readText]
  split
  next opened => rwa [opened] at file
  next opened =>
    rw [opened] at file
    split
    · exact file
    · exact file

/-- That the host does not refuse the next step. -/
def Allows (storage : Storage) : Prop := storage.refusals storage.journal.length = none

theorem Willing.allows {storage : Storage} (willing : storage.Willing) : storage.Allows :=
  willing storage.journal.length

/-- Reading is refused, or it gives what it gives where the host allows it. -/
theorem readText_refused_or_again {storage other : Storage} (allowed : other.Allows)
    (disk : other.disk = storage.disk) (working : other.working = storage.working)
    (path : String) :
    (∃ message, (storage.readText path).1 = .error (.refused message)) ∨
      (other.readText path).1 = (storage.readText path).1 := by
  simp only [readText, readFile, disk, working]
  cases storage.disk.locate storage.working path with
  | error fault => exact .inr rfl
  | ok place =>
      simp only [perform, show other.refusals other.journal.length = none from allowed, disk]
      cases storage.refusals storage.journal.length with
      | some refusal => exact .inl ⟨_, rfl⟩
      | none =>
          refine .inr ?_
          simp only [Disk.after]
          cases held : storage.disk.content place with
          | error fault => rfl
          | ok bytes =>
              simp only [Except.map, record, held]
              cases String.fromUTF8? bytes <;> rfl

end GameScenes.Storage

namespace GameScenes.ProjectFolder

open Storage (Keeps KeepsFolders Place draftName fileIn joinPath)

variable {project : ProjectFolder} {storage after other : Storage}

theorem load_disk {α : Type} (storage : Storage) (path : String) (reader : Json.TypedReader α)
    (missing : α) : (load storage path reader missing).2.disk = storage.disk := by
  have same := Storage.readText_disk storage path
  simp only [load]
  split
  next read => rwa [read] at same
  next read => rwa [read] at same
  next read =>
    rw [read] at same
    split
    · exact same
    · exact same

/-- What is loaded depends on what is read. -/
theorem load_congr {α : Type} {path : String} (reader : Json.TypedReader α) (missing : α)
    (same : (other.readText path).1 = (storage.readText path).1) :
    (load other path reader missing).1 = (load storage path reader missing).1 := by
  simp only [load]
  generalize storage.readText path = first at same ⊢
  generalize other.readText path = second at same ⊢
  obtain ⟨outcome, opened⟩ := first
  obtain ⟨again, reopened⟩ := second
  dsimp only at same
  subst same
  cases again with
  | error cause => cases cause <;> rfl
  | ok text =>
      dsimp only
      cases reader.whole text <;> rfl

/-- What was loaded once is loaded again from the same disk, where the host allows it. -/
theorem load_again {α : Type} {path : String} {reader : Json.TypedReader α} {missing a : α}
    (loaded : (load storage path reader missing).1 = .ok a) (allowed : other.Allows)
    (disk : other.disk = storage.disk) (working : other.working = storage.working) :
    (load other path reader missing).1 = .ok a := by
  rcases Storage.readText_refused_or_again allowed disk working path with
    ⟨message, refused⟩ | same
  · simp only [load] at loaded
    generalize storage.readText path = result at loaded refused
    obtain ⟨outcome, opened⟩ := result
    cases refused
    cases loaded
  · rw [load_congr reader missing same]
    exact loaded

/-! ## Files of the settings -/

/-- That the files of the settings hold the same bytes as before, and that no folder is gone. -/
structure Untouched (project : ProjectFolder) (before after : Storage) : Prop where
  folders : KeepsFolders before after
  files : ∀ name ∈ [tablesName, buildListName],
    after.fileAt? (project.settingsPlace before.working name) =
      before.fileAt? (project.settingsPlace before.working name)

namespace Untouched

variable {first second third : Storage}

theorem refl (storage : Storage) : project.Untouched storage storage :=
  ⟨⟨rfl, fun _ folder => folder⟩, fun _ _ => rfl⟩

theorem trans (earlier : project.Untouched first second)
    (later : project.Untouched second third) : project.Untouched first third where
  folders :=
    ⟨later.folders.working.trans earlier.folders.working,
      fun place folder => later.folders.folders place (earlier.folders.folders place folder)⟩
  files name member := by
    rw [← earlier.files name member, ← earlier.folders.working]
    exact later.files name member

theorem of_keeps {places : List Place} (kept : Keeps places first second)
    (apart : ∀ name ∈ [tablesName, buildListName],
      project.settingsPlace first.working name ∉ places) : project.Untouched first second :=
  ⟨kept.keepsFolders, fun name member => kept.files _ (apart name member)⟩

theorem tablesHeld (untouched : project.Untouched first second) {tables : Tables}
    (held : project.TablesHeld first tables) : project.TablesHeld second tables where
  located := held.located.mono untouched.folders
  file := by
    rw [untouched.folders.working, untouched.files tablesName (by decide)]
    exact held.file

theorem listed (untouched : project.Untouched first second) {path : String}
    (listed : project.Listed first path) : project.Listed second path where
  located := listed.located.mono untouched.folders
  file := by
    rw [untouched.folders.working, untouched.files buildListName (by decide)]
    exact listed.file

end Untouched

theorem untouched_load {α : Type} (storage : Storage) (path : String)
    (reader : Json.TypedReader α) (missing : α) :
    project.Untouched storage (load storage path reader missing).2 :=
  .of_keeps (keeps_load storage path reader missing) fun _ _ => List.not_mem_nil

theorem untouched_saveOwnFile (project : ProjectFolder) (artifact : Scene.Artifact)
    (storage : Storage) : project.Untouched storage (project.saveOwnFile artifact storage).2 := by
  apply Untouched.of_keeps
    (keeps_save storage project.scenesFolder (SceneFile.fileName artifact.name) artifact.toJson)
  intro name _
  have draft := sceneDraftPlace_ne_settingsPlace project storage.working
    (SceneFile.safeName artifact.name) name
  have own := scenePlace_ne_settingsPlace project storage.working
    (SceneFile.safeName artifact.name) name
  rw [List.mem_cons, List.mem_singleton, not_or]
  exact ⟨draft.symm, own.symm⟩

/-- Saving the tables that are held leaves their file with the same bytes, whether it succeeds or
not. -/
theorem untouched_saveTables {tables : Tables} (held : project.TablesHeld storage tables) :
    project.Untouched storage (project.saveTables tables storage).2 := by
  have draft : ∀ name ∈ [tablesName, buildListName], project.settingsPlace storage.working name ≠
      project.settingsPlace storage.working (draftName tablesName) := by
    intro name member same
    rw [settingsPlace_inj] at same
    subst same
    revert member
    decide
  generalize saved : project.saveTables tables storage = result
  obtain ⟨outcome, after⟩ := result
  cases outcome with
  | error fault =>
      apply Untouched.of_keeps (keeps_of_save_error saved)
      intro name member
      rw [List.mem_singleton]
      exact draft name member
  | ok done =>
      obtain ⟨written, kept⟩ := save_eq_ok saved
      refine ⟨kept.keepsFolders, ?_⟩
      intro name member
      by_cases same : name = tablesName
      · subst same
        exact written.trans held.file.symm
      · apply kept.files
        rw [List.mem_cons, List.mem_singleton, not_or]
        refine ⟨draft name member, ?_⟩
        intro equal
        exact same ((settingsPlace_inj project storage.working _ _).mp equal)

/-- A path that is listed is not added, and registering it writes nothing. -/
theorem registerBuildScene_of_held {path : String} (prepared : project.Prepared storage)
    (listed : project.Listed storage path) :
    (project.registerBuildScene path storage).1 ≠ .ok true ∧
      project.Untouched storage (project.registerBuildScene path storage).2 := by
  have untouched : project.Untouched storage (project.loadBuildList storage).2 :=
    untouched_load ..
  unfold registerBuildScene
  generalize loaded : project.loadBuildList storage = result at untouched ⊢
  obtain ⟨outcome, opened⟩ := result
  cases outcome with
  | error fault => exact ⟨by simp, untouched⟩
  | ok list =>
      obtain ⟨text, held, file, decoded, there⟩ := listed.file
      have found : list.lists path = true := by
        rcases (load_eq_ok prepared (by decide) loaded).2 with
          ⟨again, same, read⟩ | ⟨missing, -⟩
        · rw [file, Option.some.injEq] at same
          rw [← Storage.toUTF8_inj same, decoded] at read
          cases read
          exact there
        · rw [file] at missing
          cases missing
      dsimp only
      rw [if_pos found]
      exact ⟨by simp, untouched⟩

/-- A scene that is listed is saved without being added to the list, if it is saved at all, and
neither file of the settings is written. -/
theorem saveScene_of_held {artifact : Scene.Artifact} (prepared : project.Prepared storage)
    (listed : project.Listed storage (SceneFile.relativePath artifact.name)) :
    (∀ saved, (project.saveScene artifact storage).1 = .ok saved → saved.addedToBuild = false) ∧
      project.Untouched storage (project.saveScene artifact storage).2 := by
  have own := untouched_saveOwnFile project artifact storage
  generalize stored : project.saveOwnFile artifact storage = result at own
  obtain ⟨outcome, opened⟩ := result
  cases outcome with
  | error fault =>
      rw [saveScene_of_own_error stored]
      exact ⟨by simp, own⟩
  | ok done =>
      obtain ⟨sameStorage, sameResult⟩ := saveScene_of_own_ok stored
      obtain ⟨notAdded, registered⟩ :=
        registerBuildScene_of_held (prepared.mono own.folders) (own.listed listed)
      rw [sameStorage, sameResult]
      refine ⟨?_, own.trans registered⟩
      intro saved success
      generalize (project.registerBuildScene (SceneFile.relativePath artifact.name) opened).1 =
        listing at notAdded success
      cases listing with
      | error fault => cases success
      | ok added =>
          cases success
          cases added with
          | false => rfl
          | true => exact absurd rfl notAdded

end GameScenes.ProjectFolder
