import GameScenes.Proofs.Project.Untouched

/-!
# Settings that are read back

The files of the settings are read back as they were saved, whatever the names in them are
(`settings_read_back`).  A file that was saved can also be found: its path was short enough for its
draft, and all the folders on the way are there.
-/

set_option autoImplicit false

namespace GameScenes.Storage

/-- That the working folder is there, and that every folder has a name that a host can take. -/
structure Sound (storage : Storage) : Prop where
  here : storage.disk.get? storage.working = some .folder
  short : ∀ place name, storage.disk.get? (place ++ [name]) = some .folder →
    name.utf8ByteSize ≤ maxNameBytes

namespace Sound

variable {storage after : Storage}

theorem of_sameFolders (sound : storage.Sound) (kept : KeepsFolders storage after)
    (same : SameFolders storage after) : after.Sound where
  here := by
    rw [kept.working]
    exact kept.folders _ sound.here
  short place name folder := sound.short place name ((same _).mp folder)

theorem perform (sound : storage.Sound) (step : FileStep) : (storage.perform step).2.Sound := by
  have kept := (keeps_perform storage step).keepsFolders
  by_cases none : step.MakesNone
  · exact sound.of_sameFolders kept (sameFolders_perform storage step none)
  · cases step with
    | makeFolder place =>
        refine ⟨?_, ?_⟩
        · rw [kept.working]
          exact kept.folders _ sound.here
        · simp only [Storage.perform]
          split
          · exact sound.short
          · split
            next disk allowed =>
              have change := Disk.change_of_after allowed
              cases change with
              | makeFolder below room free =>
                  intro other name folder
                  by_cases made : other ++ [name] = place
                  · subst made
                    exact ((requireRoom_eq_ok_iff _ _ _).mp room).2
                  · apply sound.short other name
                    rwa [← Disk.get?_put_of_ne storage.disk place .folder _ made]
            · exact sound.short
    | _ => exact absurd trivial none

theorem makeFoldersFrom (sound : storage.Sound) (place : Place) (parts : List String) :
    (storage.makeFoldersFrom place parts).2.Sound := by
  induction parts generalizing storage place with
  | nil => exact sound
  | cons part rest ih =>
      simp only [Storage.makeFoldersFrom]
      split
      · exact ih sound _
      · exact sound
      · have made := sound.perform (.makeFolder (enter place part))
        split
        next performed => rwa [performed] at made
        next performed =>
          rw [performed] at made
          exact ih made _

theorem makeFolders (sound : storage.Sound) (path : String) :
    (storage.makeFolders path).2.Sound := by
  simp only [Storage.makeFolders]
  split
  · exact sound
  · exact sound.makeFoldersFrom _ _

theorem performAll (sound : storage.Sound) (steps : List FileStep) :
    (storage.performAll steps).2.Sound := by
  induction steps generalizing storage with
  | nil => exact sound
  | cons step rest ih =>
      have first := sound.perform step
      simp only [Storage.performAll]
      split
      next performed => rwa [performed] at first
      next performed =>
        rw [performed] at first
        exact ih first

theorem saveIn (sound : storage.Sound) (folder : Place) (name : String) (content : ByteArray) :
    (storage.saveIn folder name content).2.Sound := by
  have filled := sound.performAll (saveSteps folder name content)
  simp only [Storage.saveIn]
  split
  next performed => rwa [performed] at filled
  next performed =>
    rw [performed] at filled
    exact filled.perform _

theorem saveFile (sound : storage.Sound) (folder name : String) (content : ByteArray) :
    (storage.saveFile folder name content).2.Sound := by
  have opened := sound.makeFolders folder
  simp only [Storage.saveFile]
  split
  next made => rwa [made] at opened
  next made =>
    rw [made] at opened
    split
    · exact opened
    · exact opened.saveIn _ name content

/-- A folder that is entered has a name that a host can take. -/
theorem short_of_enter (sound : storage.Sound) {place : Place} {part : String}
    (folder : storage.disk.get? (enter place part) = some .folder) :
    part.utf8ByteSize ≤ maxNameBytes := by
  by_cases here : part = "" ∨ part = "."
  · rcases here with rfl | rfl <;> decide
  · by_cases up : part = ".."
    · subst up
      decide
    · rw [enter, if_neg here, if_neg up] at folder
      exact sound.short place part folder

/-- A path into folders that are there leads to what is in the last of them. -/
theorem follow (sound : storage.Sound) {place : Place} {parts : List String}
    (folders : FoldersAlong storage.disk place parts) {name : String}
    (short : name.utf8ByteSize ≤ maxNameBytes) :
    storage.disk.follow place (parts ++ [name]) = .ok (enter (parts.foldl enter place) name) := by
  induction parts generalizing place with
  | nil =>
      have there := (requireFolder_eq_ok_iff storage.disk place).mpr folders
      simp only [List.nil_append, Disk.follow, there, if_neg (Nat.not_lt.mpr short),
        List.foldl_nil]
  | cons part rest ih =>
      have there := (requireFolder_eq_ok_iff storage.disk place).mpr folders.1
      have own := sound.short_of_enter folders.2.start
      simp only [List.cons_append, Disk.follow, there, if_neg (Nat.not_lt.mpr own)]
      exact ih folders.2

end Sound

theorem checkPath_eq_ok_iff (path : String) :
    checkPath path = .ok () ↔ '\x00' ∉ path.toList ∧ path.utf8ByteSize ≤ maxPathBytes := by
  simp only [checkPath]
  split
  next ended =>
    have there : '\x00' ∈ path.toList := by simpa using ended
    simp [there]
  next whole =>
    have none : '\x00' ∉ path.toList := by simpa using whole
    split
    next long => simp [long]
    next short => simp [none, Nat.not_lt.mp short]

/-- Saving a file makes the folders of its path first, and goes on as if they had been there. -/
theorem saveFile_of_makeFolders {storage made : Storage} {folder : String} {place : Place}
    (here : storage.disk.get? storage.working = some .folder)
    (makes : storage.makeFolders folder = (.ok place, made)) (name : String)
    (content : ByteArray) :
    made.saveFile folder name content = storage.saveFile folder name content := by
  obtain ⟨kept, leads⟩ := makeFolders_spec storage folder
  rw [makes] at kept leads
  have there := (HasFolders.of_makeFolders here makes).makeFolders
  rw [kept.working, ← leads place rfl] at there
  simp only [saveFile, there, makes]

end GameScenes.Storage

namespace GameScenes.ProjectFolder

open Storage (HasFolders IsPlain SavableAt checkPath draftName joinPath maxNameBytes)

variable {project : ProjectFolder} {storage after : Storage} {name : String}

/-! ## Files of the settings -/

/-- A file is found where its name and its path are short enough. -/
theorem located_of_checked (sound : storage.Sound)
    (folders : HasFolders storage project.settingsFolder) (plain : IsPlain name)
    (short : name.utf8ByteSize ≤ maxNameBytes)
    (checked : checkPath (joinPath project.settingsFolder name) = .ok ()) :
    project.Located storage name := by
  rw [Located, project.locate_settings storage.disk storage.working plain, checked]
  dsimp only
  rw [sound.follow folders.along short, Storage.enter_of_isPlain _ plain]
  rfl

/-- The path of a file is short enough if that of its draft is. -/
theorem checkPath_of_draft (plain : IsPlain name) (draft : IsPlain (draftName name))
    (checked : checkPath (joinPath project.settingsFolder (draftName name)) = .ok ()) :
    checkPath (joinPath project.settingsFolder name) = .ok () := by
  rw [(project.joinPath_settings draft).1, draftName, Storage.checkPath_eq_ok_iff] at checked
  rw [(project.joinPath_settings plain).1, Storage.checkPath_eq_ok_iff]
  obtain ⟨whole, short⟩ := checked
  simp only [String.toList_append, List.mem_append, not_or, String.utf8ByteSize_append]
    at whole short ⊢
  exact ⟨⟨whole.1, whole.2.1.2⟩, by omega⟩

/-- A file that was saved is found. -/
theorem located_of_save {value : Json} (sound : storage.Sound) (plain : IsPlain name)
    (draft : IsPlain (draftName name))
    (success : save storage project.settingsFolder name value = (.ok (), after)) :
    project.Located after name := by
  simp only [save] at success
  generalize saved : storage.saveFile project.settingsFolder name (fileText value).toUTF8 = result
    at success
  obtain ⟨outcome, finished⟩ := result
  cases outcome with
  | error fault => cases success
  | ok done =>
      cases success
      generalize makes : storage.makeFolders project.settingsFolder = result
      obtain ⟨outcome, made⟩ := result
      cases outcome with
      | error fault =>
          simp only [Storage.saveFile, makes] at saved
          cases saved
      | ok place =>
          rw [← Storage.saveFile_of_makeFolders sound.here makes] at saved
          have folders := HasFolders.of_makeFolders sound.here makes
          have opens := sound.makeFolders project.settingsFolder
          rw [makes] at opens
          have savable := Storage.savableAt_of_saveFile folders saved
          have short : name.utf8ByteSize ≤ maxNameBytes := by
            have longer := savable.savable.short
            simp only [draftName, String.utf8ByteSize_append] at longer
            omega
          exact (located_of_checked opens folders plain short
            (checkPath_of_draft plain draft savable.checked)).mono
              (Storage.saveFile_eq_ok saved).2.keepsFolders

theorem save_of_savableAt (willing : storage.Willing)
    (savable : SavableAt storage project.settingsFolder name) (value : Json) :
    ∃ after, save storage project.settingsFolder name value = (.ok (), after) := by
  obtain ⟨after, saved⟩ := Storage.saveFile_of_savableAt willing savable (fileText value).toUTF8
  exact ⟨after, by simp only [save, saved]⟩

/-- Where the host allows it, a file of the settings is loaded as the value that it was saved as. -/
theorem load_of_save {α : Type} {reader : Json.TypedReader α} {value : Json} {a : α} (missing : α)
    {other : Storage} (sound : storage.Sound) (plain : IsPlain name)
    (draft : IsPlain (draftName name))
    (success : save storage project.settingsFolder name value = (.ok (), after))
    (decoded : reader.whole (fileText value) = .ok a) (allowed : other.Allows)
    (disk : other.disk = after.disk) (working : other.working = after.working) :
    (load other (joinPath project.settingsFolder name) reader missing).1 = .ok a := by
  obtain ⟨written, kept⟩ := save_eq_ok success
  have located := located_of_save sound plain draft success
  have file : after.fileAt? (project.settingsPlace after.working name) =
      some (fileText value).toUTF8 := by
    rw [settingsPlace, kept.working]
    exact written
  -- a host that refuses nothing loads the file, and this one does not refuse to read it
  have opened : project.Located (Storage.start after.disk after.working fun _ => none) name :=
    located.mono (keepsFolders_start _ after)
  have loaded := load_of_fileAt? missing (fun _ => rfl) plain opened file decoded
  exact load_again loaded allowed disk working

/-! ## Tables and scenes to build -/

theorem loadTables_of_saveTables {tables : Tables} (sound : storage.Sound)
    (success : project.saveTables tables storage = (.ok (), after)) (allowed : after.Allows) :
    (project.loadTables after).1 = .ok tables :=
  load_of_save Tables.builtin sound (by decide) (by decide) success
    (Tables.reader_fileText tables) allowed rfl rfl

/-- What a host loads that has the disk which registering a path left. -/
theorem loadBuildList_of_left {path : String} {added : Bool} (sound : storage.Sound)
    (success : project.registerBuildScene path storage = (.ok added, after)) :
    ∃ list, (project.loadBuildList storage).1 = .ok list ∧ added = !list.lists path ∧
      ∀ other : Storage, other.Allows → other.disk = after.disk → other.working = after.working →
        (project.loadBuildList other).1 =
          .ok (if list.lists path then list else list.add path) := by
  have kept : Storage.Keeps [] storage (project.loadBuildList storage).2 := keeps_load ..
  have same : Storage.SameFolders storage (project.loadBuildList storage).2 :=
    sameFolders_load storage _ _ _
  have disk : (project.loadBuildList storage).2.disk = storage.disk := load_disk ..
  unfold registerBuildScene at success
  generalize loaded : project.loadBuildList storage = result at kept same disk success
  obtain ⟨outcome, opened⟩ := result
  cases outcome with
  | error fault => cases success
  | ok list =>
      have found : (project.loadBuildList storage).1 = .ok list := by rw [loaded]
      dsimp only at success
      refine ⟨list, rfl, ?_⟩
      by_cases there : list.lists path = true
      · rw [if_pos there] at success ⊢
        cases success
        refine ⟨by simp [there], ?_⟩
        intro other allowed same here
        exact load_again found allowed (same.trans disk) (here.trans kept.working)
      · rw [if_neg there] at success ⊢
        generalize saved : save opened project.settingsFolder buildListName
          (list.add path).toJson = result at success
        obtain ⟨outcome, finished⟩ := result
        cases outcome with
        | error fault => cases success
        | ok done =>
            cases success
            refine ⟨by simp [there], ?_⟩
            intro other allowed left here
            exact load_of_save BuildList.empty (sound.of_sameFolders kept.keepsFolders same)
              (by decide) (by decide) saved (BuildList.reader_fileText (list.add path)) allowed
              left here

/-- The list that a path was registered in is the one that was loaded before, with the path added
unless it was there. -/
theorem loadBuildList_of_registerBuildScene {path : String} {added : Bool}
    (sound : storage.Sound)
    (success : project.registerBuildScene path storage = (.ok added, after)) :
    ∃ list, (project.loadBuildList storage).1 = .ok list ∧ added = !list.lists path ∧
      (after.Allows → (project.loadBuildList after).1 =
        .ok (if list.lists path then list else list.add path)) := by
  obtain ⟨list, loaded, answer, left⟩ := loadBuildList_of_left sound success
  exact ⟨list, loaded, answer, fun allowed => left after allowed rfl rfl⟩

theorem sound_of_registerBuildScene {path : String} {outcome : Except OutputFault Bool}
    (sound : storage.Sound) (registered : project.registerBuildScene path storage = (outcome, after)) :
    after.Sound := by
  have kept : Storage.Keeps [] storage (project.loadBuildList storage).2 := keeps_load ..
  have same : Storage.SameFolders storage (project.loadBuildList storage).2 :=
    sameFolders_load storage _ _ _
  have still := sound.of_sameFolders kept.keepsFolders same
  unfold registerBuildScene at registered
  generalize project.loadBuildList storage = result at still registered
  obtain ⟨loaded, opened⟩ := result
  cases loaded with
  | error fault =>
      cases registered
      exact still
  | ok list =>
      dsimp only at registered
      split at registered
      · cases registered
        exact still
      · have last := still.saveFile project.settingsFolder buildListName
          (fileText (list.add path).toJson).toUTF8
        simp only [save] at registered
        generalize opened.saveFile _ _ _ = result at last registered
        obtain ⟨saved, finished⟩ := result
        cases saved <;> cases registered <;> exact last

/-- Where its file can be saved, a path is registered in the list that is loaded. -/
theorem registerBuildScene_of_savableAt {path : String} {list : BuildList}
    (willing : storage.Willing)
    (savable : SavableAt storage project.settingsFolder buildListName)
    (loaded : (project.loadBuildList storage).1 = .ok list) :
    ∃ after, project.registerBuildScene path storage = (.ok (!list.lists path), after) := by
  have kept : Storage.Keeps [] storage (project.loadBuildList storage).2 := keeps_load ..
  have same : Storage.SameFolders storage (project.loadBuildList storage).2 :=
    sameFolders_load storage _ _ _
  unfold registerBuildScene
  generalize project.loadBuildList storage = result at kept same loaded ⊢
  obtain ⟨outcome, opened⟩ := result
  cases loaded
  dsimp only
  by_cases there : list.lists path = true
  · exact ⟨opened, by simp [there]⟩
  · obtain ⟨after, saved⟩ := save_of_savableAt (kept.willing willing)
      (savable.mono kept.keepsFolders same) (list.add path).toJson
    exact ⟨after, by simp [there, saved]⟩

/-- The tables that were saved are the tables that are loaded next, and so is the list of scenes to
build after a path was registered in it.  On a host that refuses nothing both are saved as soon as
the folder of the settings has room for their files. -/
theorem settings_read_back (project : ProjectFolder) {storage : Storage} (sound : storage.Sound) :
    (∀ tables after, project.saveTables tables storage = (.ok (), after) → after.Allows →
        (project.loadTables after).1 = .ok tables) ∧
      (∀ path added after, project.registerBuildScene path storage = (.ok added, after) →
        ∃ list, (project.loadBuildList storage).1 = .ok list ∧ added = !list.lists path ∧
          (after.Allows → (project.loadBuildList after).1 =
            .ok (if list.lists path then list else list.add path))) ∧
      (storage.Willing →
        (SavableAt storage project.settingsFolder tablesName → ∀ tables, ∃ after,
          project.saveTables tables storage = (.ok (), after) ∧ after.Allows) ∧
        (SavableAt storage project.settingsFolder buildListName → ∀ path list,
          (project.loadBuildList storage).1 = .ok list → ∃ after,
            project.registerBuildScene path storage = (.ok (!list.lists path), after) ∧
              after.Allows)) := by
  refine ⟨fun tables after success allowed => loadTables_of_saveTables sound success allowed,
    fun path added after success => loadBuildList_of_registerBuildScene sound success, ?_⟩
  intro willing
  constructor
  · intro savable tables
    obtain ⟨after, saved⟩ := save_of_savableAt willing savable tables.toJson
    have kept := keeps_saveTables project tables storage
    rw [show project.saveTables tables storage = (.ok (), after) from saved] at kept
    exact ⟨after, saved, (kept.willing willing).allows⟩
  · intro savable path list loaded
    obtain ⟨after, registered⟩ : ∃ after,
        project.registerBuildScene path storage = (.ok (!list.lists path), after) :=
      registerBuildScene_of_savableAt willing savable loaded
    have kept := keeps_registerBuildScene project path storage
    rw [registered] at kept
    exact ⟨after, registered, (kept.willing willing).allows⟩

/-- Tables with an empty name, a name with signs that a text has to mark, and one in other letters. -/
def oddTables : Tables :=
  { Tables.builtin with
    tags := ⟨["", "a \"b\" \\ \n", "\x00é\u2028"]⟩
    sortingLayers := ⟨[⟨"twice", 0⟩, ⟨"twice", 4294967295⟩]⟩ }

/-- In a new project any tables are read back. -/
theorem settings_read_back_new :
    (Storage.start Storage.Disk.empty [] fun _ => none).Sound ∧
      ∃ after, (ProjectFolder.mk "game").saveTables oddTables
          (Storage.start Storage.Disk.empty [] fun _ => none) = (.ok (), after) ∧
        after.Allows ∧ ((ProjectFolder.mk "game").loadTables after).1 = .ok oddTables := by
  have sound : (Storage.start Storage.Disk.empty [] fun _ => none).Sound := by
    refine ⟨rfl, ?_⟩
    intro place name folder
    simp [Storage.start, Storage.Disk.get?, Storage.Disk.empty] at folder
  have success : ((ProjectFolder.mk "game").saveTables oddTables
      (Storage.start Storage.Disk.empty [] fun _ => none)).1.isOk = true := by decide +kernel
  have kept := keeps_saveTables ⟨"game"⟩ oddTables
    (Storage.start Storage.Disk.empty [] fun _ => none)
  generalize saved : (ProjectFolder.mk "game").saveTables oddTables
    (Storage.start Storage.Disk.empty [] fun _ => none) = result at success kept ⊢
  obtain ⟨outcome, after⟩ := result
  cases outcome with
  | error fault => cases success
  | ok done =>
      have allowed := (kept.willing fun _ => rfl).allows
      exact ⟨sound, after, rfl, allowed,
        (settings_read_back ⟨"game"⟩ sound).1 oddTables after saved allowed⟩

end GameScenes.ProjectFolder
