import GameScenes.Proofs.Project.RoundTrip
import GameScenes.Proofs.Project.SceneFiles
import GameScenes.Proofs.Storage.Again

/-!
# Projects that are used again

A project whose folders were made, whose tables were kept and whose scenes were saved without a
fault can be used again: its folders are there, its tables are read as they were kept, and every
one of these scenes can be saved once more and is listed already.
-/

set_option autoImplicit false

namespace GameScenes.ProjectFolder

open Storage (Keeps KeepsFolders SameFolders HasFolders SavableAt FoldersAlong Place DiskFault draftName
  fileIn joinPath placeOf IsPlain)

variable {project : ProjectFolder} {storage after : Storage}

/-! ## Folders -/

structure Prepared (project : ProjectFolder) (storage : Storage) : Prop where
  scenes : HasFolders storage project.scenesFolder
  settings : HasFolders storage project.settingsFolder

theorem Prepared.mono (prepared : project.Prepared storage)
    (kept : KeepsFolders storage after) : project.Prepared after :=
  ⟨prepared.scenes.mono kept, prepared.settings.mono kept⟩

theorem prepared_of_makeFolders (here : storage.disk.get? storage.working = some .folder)
    (made : project.makeFolders storage = (.ok (), after)) : project.Prepared after := by
  simp only [makeFolders] at made
  have first := (Storage.makeFolders_spec storage project.scenesFolder).1
  split at made
  · simp at made
  next reached opened scenesMade =>
    rw [scenesMade] at first
    have second := (Storage.makeFolders_spec opened project.settingsFolder).1
    have stillHere : opened.disk.get? opened.working = some .folder := by
      rw [first.working]
      exact first.folders _ here
    split at made
    · simp at made
    next settingsReached finished settingsMade =>
      cases made
      rw [settingsMade] at second
      exact ⟨(HasFolders.of_makeFolders here scenesMade).mono second.keepsFolders,
        HasFolders.of_makeFolders stillHere settingsMade⟩

theorem makeFolders_of_prepared (prepared : project.Prepared storage) :
    project.makeFolders storage = (.ok (), storage) := by
  simp only [makeFolders, prepared.scenes.makeFolders, prepared.settings.makeFolders]

/-! ## Files of the settings -/

/-- That the path of a file of the settings leads to its place. -/
def Located (project : ProjectFolder) (storage : Storage) (name : String) : Prop :=
  storage.disk.locate storage.working (joinPath project.settingsFolder name) =
    .ok (project.settingsPlace storage.working name)

theorem Located.mono {name : String} (located : project.Located storage name)
    (kept : KeepsFolders storage after) : project.Located after name := by
  unfold Located at located ⊢
  rw [kept.working]
  exact Storage.locate_mono kept.folders located

theorem placeOf_settings (project : ProjectFolder) (working : Place) {name : String}
    (plain : IsPlain name) :
    placeOf working (joinPath project.settingsFolder name) = project.settingsPlace working name :=
  Storage.placeOf_joinPath working project.settingsFolder plain

/-- The path of a file of the settings goes on behind the folder of the settings. -/
theorem joinPath_settings (project : ProjectFolder) {name : String} (plain : IsPlain name) :
    joinPath project.settingsFolder name = project.settingsFolder ++ "/" ++ name ∧
      Text.pathParts (joinPath project.settingsFolder name) =
        Text.pathParts project.settingsFolder ++ [name] := by
  obtain ⟨ends, filled⟩ := Storage.getLast?_joinPath project.root
    (show IsPlain "ProjectSettings" by decide)
  apply Storage.joinPath_of_opened plain filled
  rw [ends]
  decide

theorem locate_settings (project : ProjectFolder) (disk : Storage.Disk) (working : Place)
    {name : String} (plain : IsPlain name) :
    disk.locate working (joinPath project.settingsFolder name) =
      match Storage.checkPath (joinPath project.settingsFolder name) with
      | .error fault => .error fault
      | .ok () => disk.follow (Storage.startOf working project.settingsFolder)
          (Text.pathParts project.settingsFolder ++ [name]) := by
  obtain ⟨spelled, parts⟩ := project.joinPath_settings plain
  have filled : project.settingsFolder ≠ "" := (Storage.getLast?_joinPath project.root
    (show IsPlain "ProjectSettings" by decide)).2
  have start : Storage.startOf working (joinPath project.settingsFolder name) =
      Storage.startOf working project.settingsFolder := by
    rw [spelled, String.append_assoc]
    exact Storage.startOf_append working _ filled
  have named := (Storage.getLast?_joinPath project.settingsFolder plain).2
  simp only [Storage.Disk.locate]
  cases Storage.checkPath (joinPath project.settingsFolder name) with
  | error fault => rfl
  | ok done =>
      dsimp only
      rw [if_neg named, parts, start]

/-- The path of a file of the settings is not lost where the folder of the settings is there. -/
theorem locate_ne_notFound (prepared : project.Prepared storage) {name : String}
    (plain : IsPlain name) :
    storage.disk.locate storage.working (joinPath project.settingsFolder name) ≠
      .error .notFound := by
  rw [project.locate_settings storage.disk storage.working plain]
  split
  next fault checked =>
    unfold Storage.checkPath at checked
    intro lost
    cases lost
    split at checked
    · simp at checked
    · split at checked <;> simp at checked
  · exact Storage.follow_ne_notFound prepared.settings.along name

/-- What a file of the settings was loaded as is what it holds, or it was missing. -/
theorem load_eq_ok {α : Type} {name : String} {reader : Json.TypedReader α} {missing a : α}
    (prepared : project.Prepared storage) (plain : IsPlain name)
    (success : load storage (joinPath project.settingsFolder name) reader missing =
      (.ok a, after)) :
    project.Located storage name ∧
      ((∃ text, storage.fileAt? (project.settingsPlace storage.working name) = some text.toUTF8 ∧
        reader.whole text = .ok a) ∨
      (storage.fileAt? (project.settingsPlace storage.working name) = none ∧ a = missing)) := by
  have lost := locate_ne_notFound prepared plain
  have place := project.placeOf_settings storage.working plain
  have outcomes := Storage.readText_cases storage (joinPath project.settingsFolder name)
  rw [place] at outcomes
  unfold load at success
  rcases outcomes with ⟨text, read, located, file⟩ | ⟨fault, read, missed⟩
  · refine ⟨located, .inl ⟨text, file, ?_⟩⟩
    generalize storage.readText (joinPath project.settingsFolder name) = result at read success
    obtain ⟨first, opened⟩ := result
    cases read
    dsimp only at success
    split at success
    next b decoded =>
      cases success
      exact decoded
    · simp at success
  · generalize storage.readText (joinPath project.settingsFolder name) = result at read success
    obtain ⟨first, opened⟩ := result
    cases read
    by_cases same : fault = .notFound
    · rcases missed same with gone | ⟨located, nothing⟩
      · exact absurd gone lost
      · subst same
        dsimp only at success
        cases success
        exact ⟨located, .inr ⟨nothing, rfl⟩⟩
    · cases fault <;> simp_all

/-- On a willing host a file of the settings is loaded as what it holds. -/
theorem load_of_fileAt? {α : Type} {name text : String} {reader : Json.TypedReader α}
    {a : α} (missing : α) (willing : storage.Willing) (plain : IsPlain name)
    (located : project.Located storage name)
    (file : storage.fileAt? (project.settingsPlace storage.working name) = some text.toUTF8)
    (decoded : reader.whole text = .ok a) :
    (load storage (joinPath project.settingsFolder name) reader missing).1 = .ok a := by
  have place := project.placeOf_settings storage.working plain
  have read := Storage.readText_of_fileAt? (joinPath project.settingsFolder name) willing
    (by rw [place]; exact located) (by rw [place]; exact file)
  unfold load
  generalize storage.readText (joinPath project.settingsFolder name) = result at read ⊢
  obtain ⟨first, opened⟩ := result
  cases read
  simp only [decoded]

theorem sameFolders_load {α : Type} (storage : Storage) (path : String)
    (reader : Json.TypedReader α) (missing : α) :
    SameFolders storage (load storage path reader missing).2 := by
  have same := Storage.sameFolders_readText storage path
  unfold load
  split
  next read => rwa [read] at same
  next read => rwa [read] at same
  next read =>
    rw [read] at same
    split
    · exact same
    · exact same

theorem sameFolders_save {folder : String} (folders : HasFolders storage folder) (name : String)
    (value : Json) : SameFolders storage (save storage folder name value).2 := by
  have same := Storage.sameFolders_saveFile folders name (fileText value).toUTF8
  unfold save
  split
  next saved => rwa [saved] at same
  next saved => rwa [saved] at same

/-! ## Tables -/

/-- That the file of the tables can be found and holds these tables. -/
structure TablesHeld (project : ProjectFolder) (storage : Storage) (tables : Tables) : Prop where
  located : project.Located storage tablesName
  file : storage.fileAt? (project.settingsPlace storage.working tablesName) =
    some (fileText tables.toJson).toUTF8

theorem TablesHeld.mono {places : List Place} {tables : Tables}
    (held : project.TablesHeld storage tables) (kept : Keeps places storage after)
    (apart : project.settingsPlace storage.working tablesName ∉ places) :
    project.TablesHeld after tables where
  located := held.located.mono kept.keepsFolders
  file := by
    rw [kept.working, kept.files _ apart]
    exact held.file

theorem tablesHeld_of_saveTables {tables : Tables} (located : project.Located storage tablesName)
    (success : project.saveTables tables storage = (.ok (), after)) :
    project.TablesHeld after tables := by
  obtain ⟨written, kept⟩ := save_eq_ok success
  refine ⟨located.mono kept.keepsFolders, ?_⟩
  rw [kept.working]
  exact written

theorem loadTables_of_tablesHeld {tables : Tables} (willing : storage.Willing)
    (held : project.TablesHeld storage tables) :
    (project.loadTables storage).1 = .ok tables :=
  load_of_fileAt? Tables.builtin willing (by decide) held.located held.file
    (Tables.reader_fileText tables)

/-! ## Scenes to build -/

/-- That the list of scenes to build can be found and holds a path. -/
structure Listed (project : ProjectFolder) (storage : Storage) (path : String) : Prop where
  located : project.Located storage buildListName
  file : ∃ text list,
    storage.fileAt? (project.settingsPlace storage.working buildListName) = some text.toUTF8 ∧
      BuildList.reader.whole text = .ok list ∧ list.lists path = true

theorem Listed.mono {places : List Place} {path : String} (listed : project.Listed storage path)
    (kept : Keeps places storage after)
    (apart : project.settingsPlace storage.working buildListName ∉ places) :
    project.Listed after path where
  located := listed.located.mono kept.keepsFolders
  file := by
    rw [kept.working, kept.files _ apart]
    exact listed.file

theorem lists_add (list : BuildList) (path : String) : (list.add path).lists path = true := by
  simp [BuildList.lists, BuildList.add]

theorem lists_add_of_lists (list : BuildList) (path other : String)
    (listed : list.lists other = true) : (list.add path).lists other = true := by
  simp only [BuildList.lists, BuildList.add, List.any_append, Bool.or_eq_true] at listed ⊢
  exact .inl listed

/-- Registering a path leaves it listed, and every path that was listed before. -/
theorem listed_of_registerBuildScene {path : String} {added : Bool}
    (prepared : project.Prepared storage)
    (success : project.registerBuildScene path storage = (.ok added, after)) :
    project.Listed after path ∧
      ∀ other, project.Listed storage other → project.Listed after other := by
  have read := keeps_load storage (joinPath project.settingsFolder buildListName)
    BuildList.reader BuildList.empty
  unfold registerBuildScene loadBuildList at success
  split at success
  · simp at success
  next list opened loaded =>
    rw [loaded] at read
    obtain ⟨located, held⟩ := load_eq_ok prepared (by decide) loaded
    have apart : project.settingsPlace storage.working buildListName ∉ ([] : List Place) := by simp
    split at success
    next there =>
      cases success
      refine ⟨?_, fun other listed => listed.mono read apart⟩
      rcases held with ⟨text, file, decoded⟩ | ⟨-, rfl⟩
      · have listed : project.Listed storage path := ⟨located, text, list, file, decoded, there⟩
        exact listed.mono read apart
      · simp [BuildList.lists, BuildList.empty] at there
    · split at success
      · simp at success
      next saved =>
        cases success
        obtain ⟨written, kept⟩ := save_eq_ok saved
        have stays := (located.mono read.keepsFolders).mono kept.keepsFolders
        have file : after.fileAt? (project.settingsPlace after.working buildListName) =
            some (fileText (list.add path).toJson).toUTF8 := by
          rw [kept.working]
          exact written
        have decoded := BuildList.reader_fileText (list.add path)
        refine ⟨⟨stays, _, _, file, decoded, lists_add list path⟩, ?_⟩
        intro other listed
        obtain ⟨otherText, otherList, otherFile, otherDecoded, there⟩ := listed.file
        refine ⟨stays, _, _, file, decoded, lists_add_of_lists list path other ?_⟩
        rcases held with ⟨text, sameFile, sameDecoded⟩ | ⟨nothing, -⟩
        · rw [otherFile, Option.some.injEq] at sameFile
          rw [← Storage.toUTF8_inj sameFile, otherDecoded] at sameDecoded
          cases sameDecoded
          exact there
        · rw [otherFile] at nothing
          simp at nothing

theorem sameFolders_registerBuildScene (folders : HasFolders storage project.settingsFolder)
    (path : String) : SameFolders storage (project.registerBuildScene path storage).2 := by
  have kept := keeps_load storage (joinPath project.settingsFolder buildListName)
    BuildList.reader BuildList.empty
  have same := sameFolders_load storage (joinPath project.settingsFolder buildListName)
    BuildList.reader BuildList.empty
  unfold registerBuildScene loadBuildList
  split
  next loaded => rwa [loaded] at same
  next list opened loaded =>
    rw [loaded] at same kept
    split
    · exact same
    · have saved := sameFolders_save (folders.mono kept.keepsFolders) buildListName
        (list.add path).toJson
      split
      next stored =>
        rw [stored] at saved
        exact same.trans saved
      next stored =>
        rw [stored] at saved
        exact same.trans saved

/-- On a willing host a path that is listed is registered without anything being written. -/
theorem registerBuildScene_of_listed {path : String} (willing : storage.Willing)
    (listed : project.Listed storage path) :
    ∃ after, project.registerBuildScene path storage = (.ok false, after) ∧
      Keeps [] storage after := by
  obtain ⟨text, list, file, decoded, there⟩ := listed.file
  have loaded := load_of_fileAt? BuildList.empty willing (by decide) listed.located file decoded
  have kept := keeps_load storage (joinPath project.settingsFolder buildListName)
    BuildList.reader BuildList.empty
  unfold registerBuildScene loadBuildList
  generalize load storage (joinPath project.settingsFolder buildListName) BuildList.reader
    BuildList.empty = result at loaded kept ⊢
  obtain ⟨first, opened⟩ := result
  cases loaded
  exact ⟨opened, by simp only [there, if_true], kept⟩

/-! ## Scenes -/

/-- What happens to a project while its folders are there: nothing becomes or stops being a folder,
and no scene is taken off the list. -/
structure Grows (project : ProjectFolder) (before after : Storage) : Prop where
  working : after.working = before.working
  refusals : after.refusals = before.refusals
  folders : SameFolders before after
  listed : ∀ path, project.Listed before path → project.Listed after path

namespace Grows

variable {first second third : Storage}

theorem refl (storage : Storage) : project.Grows storage storage :=
  ⟨rfl, rfl, SameFolders.refl storage, fun _ listed => listed⟩

theorem trans (earlier : project.Grows first second) (later : project.Grows second third) :
    project.Grows first third where
  working := later.working.trans earlier.working
  refusals := later.refusals.trans earlier.refusals
  folders := earlier.folders.trans later.folders
  listed path listed := later.listed path (earlier.listed path listed)

theorem of_keeps {places : List Place} (kept : Keeps places first second)
    (same : SameFolders first second)
    (apart : project.settingsPlace first.working buildListName ∉ places) :
    project.Grows first second :=
  ⟨kept.working, kept.refusals, same, fun _ listed => listed.mono kept apart⟩

theorem keepsFolders (grows : project.Grows first second) : KeepsFolders first second :=
  ⟨grows.working, fun place folder => (grows.folders place).mpr folder⟩

theorem willing (grows : project.Grows first second) (willing : first.Willing) :
    second.Willing := by
  intro n
  rw [grows.refusals]
  exact willing n

end Grows

theorem grows_load {α : Type} (storage : Storage) (path : String) (reader : Json.TypedReader α)
    (missing : α) : project.Grows storage (load storage path reader missing).2 :=
  Grows.of_keeps (keeps_load storage path reader missing)
    (sameFolders_load storage path reader missing) (by simp)

theorem grows_loadTables {result : Except OutputFault Tables}
    (loaded : project.loadTables storage = (result, after)) : project.Grows storage after := by
  have grows : project.Grows storage (load storage (joinPath project.settingsFolder tablesName)
    Tables.reader Tables.builtin).2 := grows_load ..
  unfold loadTables at loaded
  rwa [loaded] at grows

theorem grows_saveOwnFile (prepared : project.Prepared storage) (artifact : Scene.Artifact) :
    project.Grows storage (project.saveOwnFile artifact storage).2 := by
  apply Grows.of_keeps
    (keeps_save storage project.scenesFolder (SceneFile.fileName artifact.name) artifact.toJson)
    (sameFolders_save prepared.scenes _ _)
  have draft := sceneDraftPlace_ne_settingsPlace project storage.working
    (SceneFile.safeName artifact.name) buildListName
  have own := scenePlace_ne_settingsPlace project storage.working
    (SceneFile.safeName artifact.name) buildListName
  rw [List.mem_cons, List.mem_singleton, not_or]
  exact ⟨draft.symm, own.symm⟩

theorem grows_saveTables (prepared : project.Prepared storage) (tables : Tables) :
    project.Grows storage (project.saveTables tables storage).2 := by
  apply Grows.of_keeps (keeps_saveTables project tables storage)
    (sameFolders_save prepared.settings _ _)
  simp only [List.mem_cons, List.not_mem_nil, or_false, settingsPlace_inj]
  decide

theorem grows_registerBuildScene {path : String} {added : Bool}
    (prepared : project.Prepared storage)
    (success : project.registerBuildScene path storage = (.ok added, after)) :
    project.Grows storage after := by
  have kept := keeps_registerBuildScene project path storage
  have same := sameFolders_registerBuildScene prepared.settings path
  rw [success] at kept same
  exact ⟨kept.working, kept.refusals, same, (listed_of_registerBuildScene prepared success).2⟩

/-- That a scene with a name can be saved without anything else than its file being written. -/
structure Resavable (project : ProjectFolder) (storage : Storage) (scene : String) : Prop where
  savable : SavableAt storage project.scenesFolder (SceneFile.fileName scene)
  listed : project.Listed storage (SceneFile.relativePath scene)

theorem Resavable.mono {scene : String} (resavable : project.Resavable storage scene)
    (grows : project.Grows storage after) : project.Resavable after scene :=
  ⟨resavable.savable.mono grows.keepsFolders grows.folders, grows.listed _ resavable.listed⟩

/-- A scene that was saved can be saved again. -/
theorem resavable_of_saveScene {artifact : Scene.Artifact} {saved : SavedScene}
    (prepared : project.Prepared storage)
    (success : project.saveScene artifact storage = (.ok saved, after)) :
    project.Grows storage after ∧ project.Resavable after artifact.name := by
  have own := grows_saveOwnFile prepared artifact
  cases stored : project.saveOwnFile artifact storage with
  | mk result opened =>
      cases result with
      | error fault =>
          rw [saveScene_of_own_error stored] at success
          simp at success
      | ok done =>
          obtain ⟨sameStorage, sameResult⟩ := saveScene_of_own_ok stored
          rw [success] at sameStorage sameResult
          rw [stored] at own
          cases registered : project.registerBuildScene (SceneFile.relativePath artifact.name)
              opened with
          | mk listing finished =>
              rw [registered] at sameStorage sameResult
              dsimp only at sameStorage sameResult own
              subst sameStorage
              cases listing with
              | error fault => simp [Except.map] at sameResult
              | ok added =>
                  have opens := prepared.mono own.keepsFolders
                  have grows := own.trans (grows_registerBuildScene opens registered)
                  have savable : SavableAt storage project.scenesFolder
                      (SceneFile.fileName artifact.name) := by
                    unfold saveOwnFile save at stored
                    split at stored
                    · simp at stored
                    next written => exact Storage.savableAt_of_saveFile prepared.scenes written
                  exact ⟨grows, savable.mono grows.keepsFolders grows.folders,
                    (listed_of_registerBuildScene opens registered).1⟩

/-- On a willing host a scene that can be saved again is saved, as whatever it was built. -/
theorem saveScene_of_resavable {artifact : Scene.Artifact} (willing : storage.Willing)
    (prepared : project.Prepared storage) (resavable : project.Resavable storage artifact.name) :
    ∃ saved after, project.saveScene artifact storage = (.ok saved, after) ∧
      project.Grows storage after := by
  have own := grows_saveOwnFile prepared artifact
  obtain ⟨opened, written⟩ := Storage.saveFile_of_savableAt willing resavable.savable
    (fileText artifact.toJson).toUTF8
  have stored : project.saveOwnFile artifact storage = (.ok (), opened) := by
    unfold saveOwnFile save
    rw [written]
  rw [stored] at own
  obtain ⟨finished, registered, kept⟩ := registerBuildScene_of_listed (own.willing willing)
    (own.listed _ resavable.listed)
  obtain ⟨sameStorage, sameResult⟩ := saveScene_of_own_ok stored
  rw [registered] at sameStorage sameResult
  generalize project.saveScene artifact storage = result at sameStorage sameResult ⊢
  obtain ⟨first, after⟩ := result
  dsimp only at sameStorage sameResult
  subst sameStorage sameResult
  exact ⟨_, _, rfl, own.trans (grows_registerBuildScene (prepared.mono own.keepsFolders) registered)⟩

/-! ## Projects that are opened again -/

section Reopened

variable (refusals : Nat → Option Storage.Refusal)

theorem keepsFolders_start (storage : Storage) :
    KeepsFolders storage (Storage.start storage.disk storage.working refusals) :=
  ⟨rfl, fun _ folder => folder⟩

theorem Prepared.start (prepared : project.Prepared storage) :
    project.Prepared (Storage.start storage.disk storage.working refusals) :=
  prepared.mono (keepsFolders_start refusals storage)

theorem TablesHeld.start {tables : Tables} (held : project.TablesHeld storage tables) :
    project.TablesHeld (Storage.start storage.disk storage.working refusals) tables :=
  ⟨held.located.mono (keepsFolders_start refusals storage), held.file⟩

theorem Resavable.start {scene : String} (resavable : project.Resavable storage scene) :
    project.Resavable (Storage.start storage.disk storage.working refusals) scene where
  savable := resavable.savable.mono (keepsFolders_start refusals storage) fun _ => Iff.rfl
  listed := ⟨resavable.listed.located.mono (keepsFolders_start refusals storage),
    resavable.listed.file⟩

end Reopened

end GameScenes.ProjectFolder
