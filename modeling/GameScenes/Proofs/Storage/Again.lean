import GameScenes.Proofs.Storage.Saving

/-!
# What succeeds again

A file that was saved once can be saved again, and a path that was followed once can be followed
again: no step but making a folder makes a folder, no step takes one away, and nothing else of the
disk matters for either.  Making the folders of a path again makes none.
-/

set_option autoImplicit false

namespace GameScenes.Storage

/-- That the host refuses nothing. -/
def Willing (storage : Storage) : Prop := ∀ n, storage.refusals n = none

/-- That between two moments no folder was made and none was lost. -/
def SameFolders (before after : Storage) : Prop :=
  ∀ place, after.disk.get? place = some .folder ↔ before.disk.get? place = some .folder

/-- That between two moments no folder was lost. -/
structure KeepsFolders (before after : Storage) : Prop where
  working : after.working = before.working
  folders : ∀ place, before.disk.get? place = some .folder → after.disk.get? place = some .folder

theorem Keeps.keepsFolders {places : List Place} {before after : Storage}
    (kept : Keeps places before after) : KeepsFolders before after := ⟨kept.working, kept.folders⟩

def FileStep.MakesNone : FileStep → Prop
  | makeFolder _ => False
  | _ => True

namespace SameFolders

variable {first second third : Storage}

theorem refl (storage : Storage) : SameFolders storage storage := fun _ => Iff.rfl

theorem trans (earlier : SameFolders first second) (later : SameFolders second third) :
    SameFolders first third := fun place => (later place).trans (earlier place)

end SameFolders

/-! ## Steps -/

theorem Disk.Change.folder_iff {disk next : Disk} {step : FileStep}
    (change : disk.Change step next) (none : step.MakesNone) (other : Place) :
    next.get? other = some .folder ↔ disk.get? other = some .folder := by
  refine ⟨?_, change.folder other⟩
  intro folder
  cases change with
  | makeFolder place room free => exact absurd none id
  | read place bytes there => exact folder
  | create place room free => exact Disk.get?_of_put_file folder
  | write place content bytes there => exact Disk.get?_of_put_file folder
  | flush place bytes there => exact folder
  | rename source target bytes there room free =>
      exact Disk.get?_of_erase (Disk.get?_of_put_file folder)
  | remove place bytes there => exact Disk.get?_of_erase folder

theorem afterRefusal_folder_iff (disk : Disk) (refusal : Refusal) (step : FileStep)
    (other : Place) :
    (disk.afterRefusal refusal step).get? other = some .folder ↔
      disk.get? other = some .folder := by
  refine ⟨?_, afterRefusal_folder disk refusal step other⟩
  intro folder
  cases step with
  | write place content =>
      simp only [Disk.afterRefusal] at folder
      split at folder
      · exact Disk.get?_of_put_file folder
      · exact folder
  | _ => exact folder

theorem sameFolders_perform (storage : Storage) (step : FileStep) (none : step.MakesNone) :
    SameFolders storage (storage.perform step).2 := by
  intro place
  simp only [perform]
  split
  · exact afterRefusal_folder_iff storage.disk _ step place
  · split
    next disk done => exact (Disk.change_of_after done).folder_iff none place
    · exact Iff.rfl

theorem sameFolders_performAll (storage : Storage) (steps : List FileStep)
    (none : ∀ step ∈ steps, step.MakesNone) :
    SameFolders storage (storage.performAll steps).2 := by
  induction steps generalizing storage with
  | nil => exact SameFolders.refl storage
  | cons step rest ih =>
      have first := sameFolders_perform storage step (none step (List.mem_cons_self ..))
      simp only [performAll]
      split
      next performed => rwa [performed] at first
      next performed =>
        rw [performed] at first
        exact first.trans (ih _ fun s member => none s (List.mem_cons_of_mem _ member))

theorem sameFolders_saveIn (storage : Storage) (folder : Place) (name : String)
    (content : ByteArray) : SameFolders storage (storage.saveIn folder name content).2 := by
  have run := sameFolders_performAll storage (saveSteps folder name content)
    (by simp [saveSteps, FileStep.MakesNone])
  simp only [saveIn]
  split
  next performed => rwa [performed] at run
  next stopped performed =>
    rw [performed] at run
    exact run.trans (sameFolders_perform stopped _ trivial)

theorem sameFolders_readText (storage : Storage) (path : String) :
    SameFolders storage (storage.readText path).2 := by
  have read : SameFolders storage (storage.readFile path).2 := by
    simp only [readFile]
    split
    · exact SameFolders.refl storage
    next place located =>
      have step := sameFolders_perform storage (.read place) trivial
      split
      next performed => rwa [performed] at step
      next performed => rwa [performed] at step
  simp only [readText]
  split
  next opened => rwa [opened] at read
  next opened =>
    rw [opened] at read
    split
    · exact read
    · exact read

/-- A step that the rules of the disk allow happens on a willing host. -/
theorem perform_of_after {storage : Storage} {step : FileStep} {disk : Disk}
    (willing : storage.Willing) (allowed : storage.disk.after step = .ok disk) :
    ∃ next, storage.perform step = (.ok (), next) ∧ next.disk = disk ∧ next.Willing := by
  refine ⟨storage.record step (.ok ()) disk, ?_, rfl, willing⟩
  simp only [perform, willing storage.journal.length, allowed]

theorem performAll_of_after {storage : Storage} {step : FileStep} {disk : Disk}
    (willing : storage.Willing) (allowed : storage.disk.after step = .ok disk)
    (rest : List FileStep) :
    ∃ next : Storage, storage.performAll (step :: rest) = next.performAll rest ∧ next.disk = disk ∧
      next.Willing := by
  obtain ⟨next, performed, same, still⟩ := perform_of_after willing allowed
  exact ⟨next, by simp only [performAll, performed], same, still⟩

theorem Keeps.willing {places : List Place} {before after : Storage}
    (kept : Keeps places before after) (willing : before.Willing) : after.Willing := by
  intro n
  rw [kept.refusals]
  exact willing n

/-! ## Saving again -/

/-- What a disk has to offer for a file to be saved in a folder. -/
structure Savable (disk : Disk) (folder : Place) (name : String) : Prop where
  inFolder : disk.get? folder = some .folder
  short : (draftName name).utf8ByteSize ≤ maxNameBytes
  draftFree : disk.get? (folder ++ [draftName name]) ≠ some .folder
  free : disk.get? (folder ++ [name]) ≠ some .folder

theorem requireRoom_eq_ok_iff (disk : Disk) (folder : Place) (name : String) :
    disk.requireRoom (folder ++ [name]) = .ok () ↔
      disk.get? folder = some .folder ∧ name.utf8ByteSize ≤ maxNameBytes := by
  simp only [Disk.requireRoom, Disk.requireFolder, List.dropLast_concat, List.getLast?_concat,
    Option.getD_some]
  cases disk.get? folder with
  | none => simp
  | some entry =>
      cases entry with
      | file content => simp
      | folder => simp

theorem Savable.of_sameFolders {before after : Storage} {folder : Place} {name : String}
    (savable : Savable before.disk folder name) (same : SameFolders before after) :
    Savable after.disk folder name where
  inFolder := (same folder).mpr savable.inFolder
  short := savable.short
  draftFree found := savable.draftFree ((same _).mp found)
  free found := savable.free ((same _).mp found)

theorem savable_of_saveIn {storage after : Storage} {folder : Place} {name : String}
    {content : ByteArray} (success : storage.saveIn folder name content = (.ok (), after)) :
    Savable storage.disk folder name := by
  obtain ⟨created, written, flushed, creates, writes, flushes, renames⟩ := saveIn_steps success
  have firstSame := sameFolders_perform storage (.create (folder ++ [draftName name])) trivial
  have secondSame := sameFolders_perform created (.write (folder ++ [draftName name]) content)
    trivial
  have thirdSame := sameFolders_perform written (.flush (folder ++ [draftName name])) trivial
  rw [creates] at firstSame
  rw [writes] at secondSame
  rw [flushes] at thirdSame
  have same := (firstSame.trans secondSame).trans thirdSame
  obtain ⟨opening, -, -⟩ := perform_eq_ok creates
  obtain ⟨replacement, -, -⟩ := perform_eq_ok renames
  generalize created.disk = createdDisk at opening
  generalize after.disk = afterDisk at replacement
  cases opening with
  | create place room free =>
      obtain ⟨there, short⟩ := (requireRoom_eq_ok_iff _ _ _).mp room
      cases replacement with
      | rename source target bytes moved targetRoom targetFree =>
          exact ⟨there, short, free, fun found => targetFree ((same _).mpr found)⟩

/-- On a willing host a file is saved where the disk offers what it takes. -/
theorem saveIn_of_savable {storage : Storage} {folder : Place} {name : String}
    (willing : storage.Willing) (savable : Savable storage.disk folder name)
    (content : ByteArray) :
    ∃ after, storage.saveIn folder name content = (.ok (), after) := by
  obtain ⟨there, short, draftFree, free⟩ := savable
  have nameShort : name.utf8ByteSize ≤ maxNameBytes := by
    have longer : name.utf8ByteSize ≤ (draftName name).utf8ByteSize := by
      simp only [draftName, String.utf8ByteSize_append]
      omega
    exact Nat.le_trans longer short
  generalize draft : folder ++ [draftName name] = draftPlace at draftFree
  generalize target : folder ++ [name] = targetPlace at free
  have apart : targetPlace ≠ draftPlace := by
    rw [← draft, ← target]
    exact (draft_ne folder name).symm
  have below : draftPlace ≠ [] := by simp [← draft]
  have folderApart : folder ≠ draftPlace := by simp [← draft]
  -- the draft is made, filled and awaited
  let opened := storage.disk.put draftPlace (.file ByteArray.empty)
  let filled := opened.put draftPlace (.file content)
  have created : storage.disk.after (.create draftPlace) = .ok opened := by
    have room := (requireRoom_eq_ok_iff storage.disk folder (draftName name)).mpr ⟨there, short⟩
    rw [draft] at room
    simp only [Disk.after, room]
    rfl
  have openedThere := (Disk.content_eq_ok_iff opened draftPlace ByteArray.empty).mpr
    (Disk.get?_put_self storage.disk draftPlace _ below)
  have filledThere := (Disk.content_eq_ok_iff filled draftPlace content).mpr
    (Disk.get?_put_self opened draftPlace _ below)
  have written : opened.after (.write draftPlace content) = .ok filled := by
    simp only [Disk.after, openedThere, Except.map]
    rfl
  have flushed : filled.after (.flush draftPlace) = .ok filled := by
    simp only [Disk.after, filledThere, Except.map]
  -- and moved over the file
  have renamed : filled.after (.rename draftPlace targetPlace) =
      .ok ((filled.erase draftPlace).put targetPlace (.file content)) := by
    have folderThere : filled.get? folder = some .folder := by
      rw [Disk.get?_put_of_ne opened draftPlace _ folder folderApart,
        Disk.get?_put_of_ne storage.disk draftPlace _ folder folderApart]
      exact there
    have targetFree : filled.get? targetPlace ≠ some .folder := by
      rw [Disk.get?_put_of_ne opened draftPlace _ targetPlace apart,
        Disk.get?_put_of_ne storage.disk draftPlace _ targetPlace apart]
      exact free
    have room := (requireRoom_eq_ok_iff filled folder name).mpr ⟨folderThere, nameShort⟩
    rw [target] at room
    simp only [Disk.after, filledThere, room]
  obtain ⟨first, firstRun, sameFirst, firstWilling⟩ := performAll_of_after willing created
    [.write draftPlace content, .flush draftPlace, .rename draftPlace targetPlace]
  rw [← sameFirst] at written
  obtain ⟨second, secondRun, sameSecond, secondWilling⟩ := performAll_of_after firstWilling written
    [.flush draftPlace, .rename draftPlace targetPlace]
  rw [← sameSecond] at flushed
  obtain ⟨third, thirdRun, sameThird, thirdWilling⟩ := performAll_of_after secondWilling flushed
    [.rename draftPlace targetPlace]
  rw [← sameSecond, ← sameThird] at renamed
  obtain ⟨last, lastRun, -, -⟩ := performAll_of_after thirdWilling renamed []
  have run := (firstRun.trans secondRun).trans (thirdRun.trans lastRun)
  refine ⟨last, ?_⟩
  simp only [saveIn, saveSteps, draft, target, run, performAll]

/-! ## Folders along a path -/

/-- That there is a folder at a place and at every place along parts of a path. -/
def FoldersAlong (disk : Disk) : Place → List String → Prop
  | place, [] => disk.get? place = some .folder
  | place, part :: rest =>
      disk.get? place = some .folder ∧ FoldersAlong disk (enter place part) rest

theorem FoldersAlong.start {disk : Disk} {place : Place} {parts : List String}
    (folders : FoldersAlong disk place parts) : disk.get? place = some .folder := by
  cases parts with
  | nil => exact folders
  | cons part rest => exact folders.1

theorem FoldersAlong.last {disk : Disk} {place : Place} {parts : List String}
    (folders : FoldersAlong disk place parts) :
    disk.get? (parts.foldl enter place) = some .folder := by
  induction parts generalizing place with
  | nil => exact folders
  | cons part rest ih => exact ih folders.2

theorem FoldersAlong.mono {disk next : Disk} {place : Place} {parts : List String}
    (folders : FoldersAlong disk place parts)
    (kept : ∀ other, disk.get? other = some .folder → next.get? other = some .folder) :
    FoldersAlong next place parts := by
  induction parts generalizing place with
  | nil => exact kept place folders
  | cons part rest ih => exact ⟨kept place folders.1, ih folders.2⟩

/-- Once the folders of a path are made they are all there. -/
theorem foldersAlong_of_makeFoldersFrom {storage after : Storage} {place reached : Place}
    {parts : List String} (start : storage.disk.get? place = some .folder)
    (made : storage.makeFoldersFrom place parts = (.ok reached, after)) :
    FoldersAlong after.disk place parts := by
  induction parts generalizing storage place with
  | nil =>
      cases made
      exact start
  | cons part rest ih =>
      have kept : ∀ other, storage.disk.get? other = some .folder →
          after.disk.get? other = some .folder := by
        have frame := (makeFoldersFrom_spec storage place (part :: rest)).1.folders
        rwa [made] at frame
      refine ⟨kept place start, ?_⟩
      simp only [makeFoldersFrom] at made
      split at made
      next folder => exact ih folder made
      · simp at made
      · split at made
        · simp at made
        next opened performed =>
          refine ih ?_ made
          obtain ⟨change, -, -⟩ := perform_eq_ok performed
          generalize opened.disk = disk at change
          cases change with
          | makeFolder below room free =>
              by_cases root : enter place part = []
              · rw [root]
                rfl
              · exact Disk.get?_put_self _ _ _ root

/-- Where all folders of a path are there, making them does nothing. -/
theorem makeFoldersFrom_of_foldersAlong {storage : Storage} {place : Place} {parts : List String}
    (folders : FoldersAlong storage.disk place parts) :
    storage.makeFoldersFrom place parts = (.ok (parts.foldl enter place), storage) := by
  induction parts generalizing place with
  | nil => rfl
  | cons part rest ih =>
      simp only [makeFoldersFrom, folders.2.start]
      exact ih folders.2

/-- That a path may be told to the host and that all its folders are there. -/
structure HasFolders (storage : Storage) (path : String) : Prop where
  checked : checkPath path = .ok ()
  along : FoldersAlong storage.disk (startOf storage.working path) (Text.pathParts path)

namespace HasFolders

variable {storage after : Storage} {path : String}

theorem mono (folders : HasFolders storage path) (kept : KeepsFolders storage after) :
    HasFolders after path where
  checked := folders.checked
  along := by
    rw [kept.working]
    exact folders.along.mono kept.folders

theorem placeOf (folders : HasFolders storage path) :
    storage.disk.get? (placeOf storage.working path) = some .folder := folders.along.last

theorem of_makeFolders {reached : Place}
    (here : storage.disk.get? storage.working = some .folder)
    (made : storage.makeFolders path = (.ok reached, after)) : HasFolders after path := by
  have working : after.working = storage.working := by
    have kept := (makeFolders_spec storage path).1.working
    rwa [made] at kept
  simp only [makeFolders] at made
  split at made
  · simp at made
  next checked =>
    refine ⟨checked, ?_⟩
    rw [working]
    refine foldersAlong_of_makeFoldersFrom ?_ made
    unfold startOf
    split
    · rfl
    · exact here

theorem makeFolders (folders : HasFolders storage path) :
    storage.makeFolders path = (.ok (Storage.placeOf storage.working path), storage) := by
  simp only [Storage.makeFolders, folders.checked]
  exact makeFoldersFrom_of_foldersAlong folders.along

end HasFolders

/-! ## Saving and reading along paths -/

/-- What it takes to save a file in the folder of a path. -/
structure SavableAt (storage : Storage) (folder name : String) : Prop where
  folders : HasFolders storage folder
  checked : checkPath (joinPath folder (draftName name)) = .ok ()
  savable : Savable storage.disk (placeOf storage.working folder) name

theorem SavableAt.mono {storage after : Storage} {folder name : String}
    (savable : SavableAt storage folder name) (kept : KeepsFolders storage after)
    (same : SameFolders storage after) : SavableAt after folder name where
  folders := savable.folders.mono kept
  checked := savable.checked
  savable := by
    rw [kept.working]
    exact savable.savable.of_sameFolders same

theorem sameFolders_saveFile {storage : Storage} {folder : String}
    (folders : HasFolders storage folder) (name : String) (content : ByteArray) :
    SameFolders storage (storage.saveFile folder name content).2 := by
  simp only [saveFile, folders.makeFolders]
  split
  · exact SameFolders.refl storage
  · exact sameFolders_saveIn storage _ name content

theorem savableAt_of_saveFile {storage after : Storage} {folder name : String}
    {content : ByteArray} (folders : HasFolders storage folder)
    (success : storage.saveFile folder name content = (.ok (), after)) :
    SavableAt storage folder name := by
  simp only [saveFile, folders.makeFolders] at success
  split at success
  · simp at success
  next checked => exact ⟨folders, checked, savable_of_saveIn success⟩

theorem saveFile_of_savableAt {storage : Storage} {folder name : String}
    (willing : storage.Willing) (savable : SavableAt storage folder name) (content : ByteArray) :
    ∃ after, storage.saveFile folder name content = (.ok (), after) := by
  simp only [saveFile, savable.folders.makeFolders, savable.checked]
  exact saveIn_of_savable willing savable.savable content

theorem follow_eq_ok {disk : Disk} {place reached : Place} {parts : List String}
    (followed : disk.follow place parts = .ok reached) : reached = parts.foldl enter place := by
  induction parts generalizing place with
  | nil =>
      cases followed
      rfl
  | cons part rest ih =>
      simp only [Disk.follow] at followed
      split at followed
      · simp at followed
      · split at followed
        · simp at followed
        · exact ih followed

theorem locate_eq_ok {disk : Disk} {working reached : Place} {path : String}
    (located : disk.locate working path = .ok reached) : reached = placeOf working path := by
  simp only [Disk.locate] at located
  split at located
  · simp at located
  · split at located
    · simp at located
    · exact follow_eq_ok located

theorem requireFolder_eq_ok_iff (disk : Disk) (place : Place) :
    disk.requireFolder place = .ok () ↔ disk.get? place = some .folder := by
  unfold Disk.requireFolder
  cases disk.get? place with
  | none => simp
  | some entry => cases entry <;> simp

theorem follow_mono {disk next : Disk} {place reached : Place} {parts : List String}
    (kept : ∀ other, disk.get? other = some .folder → next.get? other = some .folder)
    (followed : disk.follow place parts = .ok reached) : next.follow place parts = .ok reached := by
  induction parts generalizing place with
  | nil => exact followed
  | cons part rest ih =>
      simp only [Disk.follow] at followed ⊢
      split at followed
      · simp at followed
      next folder =>
        rw [(requireFolder_eq_ok_iff next place).mpr
          (kept place ((requireFolder_eq_ok_iff disk place).mp folder))]
        split at followed
        · simp at followed
        next short =>
          rw [if_neg short]
          exact ih followed

theorem locate_mono {disk next : Disk} {working reached : Place} {path : String}
    (kept : ∀ other, disk.get? other = some .folder → next.get? other = some .folder)
    (located : disk.locate working path = .ok reached) :
    next.locate working path = .ok reached := by
  simp only [Disk.locate] at located ⊢
  split at located
  · simp at located
  next checked =>
    split at located
    · simp at located
    next filled =>
      rw [if_neg filled]
      exact follow_mono kept located

/-- A path into folders that are there is not lost on the way. -/
theorem follow_ne_notFound {disk : Disk} {place : Place} {parts : List String}
    (folders : FoldersAlong disk place parts) (name : String) :
    disk.follow place (parts ++ [name]) ≠ .error .notFound := by
  induction parts generalizing place with
  | nil =>
      have there := (requireFolder_eq_ok_iff disk place).mpr folders
      simp only [List.nil_append, Disk.follow, there]
      split <;> simp
  | cons part rest ih =>
      have there := (requireFolder_eq_ok_iff disk place).mpr folders.1
      simp only [List.cons_append, Disk.follow, there]
      split
      · simp
      · exact ih folders.2

/-! ## Reading -/

theorem fromUTF8?_toUTF8 (s : String) : String.fromUTF8? s.toUTF8 = some s := by
  unfold String.fromUTF8?
  exact dif_pos s.isValidUTF8

theorem toUTF8_of_fromUTF8? {bytes : ByteArray} {s : String}
    (text : String.fromUTF8? bytes = some s) : bytes = s.toUTF8 := by
  unfold String.fromUTF8? at text
  split at text
  · cases text
    rfl
  · simp at text

theorem toUTF8_inj {s t : String} (same : s.toUTF8 = t.toUTF8) : s = t :=
  String.toByteArray_inj.mp same

/-- Reading finds the file, or it fails; that nothing is there it says only where nothing is. -/
theorem perform_read_cases (storage : Storage) (place : Place) :
    (∃ after bytes, storage.perform (.read place) = (.ok (), after) ∧
      after.disk = storage.disk ∧ storage.disk.content place = .ok bytes) ∨
    (∃ fault after, storage.perform (.read place) = (.error fault, after) ∧
      (fault = .notFound → storage.fileAt? place = none)) := by
  simp only [perform]
  split
  · exact .inr ⟨_, _, rfl, fun lost => by simp at lost⟩
  · cases held : storage.disk.content place with
    | ok bytes =>
        have allowed : storage.disk.after (.read place) = .ok storage.disk := by
          simp only [Disk.after, held, Except.map]
        rw [allowed]
        exact .inl ⟨_, bytes, rfl, rfl, rfl⟩
    | error fault =>
        have allowed : storage.disk.after (.read place) = .error fault := by
          simp only [Disk.after, held, Except.map]
        rw [allowed]
        refine .inr ⟨fault, _, rfl, ?_⟩
        intro lost
        unfold Disk.content at held
        unfold fileAt? Disk.fileAt?
        split at held
        · simp at held
        next folder => rw [folder]
        next nothing => rw [nothing]

/-- Reading the text of a file finds it at the place of its path; that it is missing is said only
when the path is lost on the way or there is no file at its end. -/
theorem readText_cases (storage : Storage) (path : String) :
    (∃ text, (storage.readText path).1 = .ok text ∧
      storage.disk.locate storage.working path = .ok (placeOf storage.working path) ∧
      storage.fileAt? (placeOf storage.working path) = some text.toUTF8) ∨
    (∃ fault, (storage.readText path).1 = .error fault ∧
      (fault = .notFound → storage.disk.locate storage.working path = .error .notFound ∨
        storage.disk.locate storage.working path = .ok (placeOf storage.working path) ∧
          storage.fileAt? (placeOf storage.working path) = none)) := by
  unfold readText readFile
  cases located : storage.disk.locate storage.working path with
  | error fault => exact .inr ⟨fault, rfl, fun lost => .inl (by rw [lost])⟩
  | ok place =>
      have same := locate_eq_ok located
      subst same
      rcases perform_read_cases storage (placeOf storage.working path) with
        ⟨after, bytes, performed, sameDisk, held⟩ | ⟨fault, after, performed, missing⟩
      · have file : storage.fileAt? (placeOf storage.working path) = some bytes :=
          (Disk.fileAt?_eq_some_iff _ _ _).mpr ((Disk.content_eq_ok_iff _ _ _).mp held)
        simp only [performed, sameDisk, held]
        split
        next text whole =>
          rw [toUTF8_of_fromUTF8? whole] at file
          exact .inl ⟨text, rfl, trivial, file⟩
        · exact .inr ⟨.notText, rfl, fun lost => by simp at lost⟩
      · simp only [performed]
        exact .inr ⟨fault, rfl, fun lost => .inr ⟨trivial, missing lost⟩⟩

/-- On a willing host the text of a file is read through a path that leads to it. -/
theorem readText_of_fileAt? {storage : Storage} {text : String} (path : String)
    (willing : storage.Willing)
    (located : storage.disk.locate storage.working path = .ok (placeOf storage.working path))
    (file : storage.fileAt? (placeOf storage.working path) = some text.toUTF8) :
    (storage.readText path).1 = .ok text := by
  have held := (Disk.content_eq_ok_iff _ _ _).mpr ((Disk.fileAt?_eq_some_iff _ _ _).mp file)
  have allowed : storage.disk.after (.read (placeOf storage.working path)) = .ok storage.disk := by
    simp only [Disk.after, held, Except.map]
  obtain ⟨next, performed, sameDisk, -⟩ := perform_of_after willing allowed
  simp only [readText, readFile, located, performed, sameDisk, held, fromUTF8?_toUTF8]

end GameScenes.Storage
