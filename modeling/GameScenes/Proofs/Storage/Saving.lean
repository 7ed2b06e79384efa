import GameScenes.Proofs.Storage.Files

/-!
# What saving a file leaves behind

A file is saved by way of a draft.  When saving succeeds the file holds the new content and the
draft is gone; when it fails, at whichever step, the file is as it was.  Making folders changes no
file.
-/

set_option autoImplicit false

namespace GameScenes.Storage

def fileAt? (storage : Storage) (place : Place) : Option ByteArray := storage.disk.fileAt? place

/-- That between two moments only files at some places changed and no folder was lost. -/
structure Keeps (places : List Place) (before after : Storage) : Prop where
  working : after.working = before.working
  refusals : after.refusals = before.refusals
  files : ∀ place, place ∉ places → after.fileAt? place = before.fileAt? place
  folders : ∀ place, before.disk.get? place = some .folder → after.disk.get? place = some .folder

namespace Keeps

variable {places others : List Place} {first second third : Storage}

theorem refl (places : List Place) (storage : Storage) : Keeps places storage storage :=
  ⟨rfl, rfl, fun _ _ => rfl, fun _ folder => folder⟩

theorem mono (kept : Keeps places first second) (wider : places ⊆ others) :
    Keeps others first second :=
  ⟨kept.working, kept.refusals, fun place apart => kept.files place fun member =>
    apart (wider member), kept.folders⟩

theorem trans (earlier : Keeps places first second) (later : Keeps places second third) :
    Keeps places first third where
  working := later.working.trans earlier.working
  refusals := later.refusals.trans earlier.refusals
  files place apart := (later.files place apart).trans (earlier.files place apart)
  folders place folder := later.folders place (earlier.folders place folder)

end Keeps

/-! ## Steps of a storage -/

theorem afterRefusal_get? (disk : Disk) (refusal : Refusal) (step : FileStep) (other : Place)
    (apart : other ∉ step.spoils) :
    (disk.afterRefusal refusal step).get? other = disk.get? other := by
  cases step with
  | write place content =>
      simp only [Disk.afterRefusal]
      split
      · exact Disk.get?_put_of_ne disk place _ other (by simpa [FileStep.spoils] using apart)
      · rfl
  | _ => rfl

theorem afterRefusal_fileAt? (disk : Disk) (refusal : Refusal) (step : FileStep) (other : Place)
    (apart : other ∉ step.spoils) :
    (disk.afterRefusal refusal step).fileAt? other = disk.fileAt? other :=
  Disk.fileAt?_congr (afterRefusal_get? disk refusal step other apart)

theorem afterRefusal_folder (disk : Disk) (refusal : Refusal) (step : FileStep) (other : Place)
    (folder : disk.get? other = some .folder) :
    (disk.afterRefusal refusal step).get? other = some .folder := by
  cases step with
  | write place content =>
      simp only [Disk.afterRefusal]
      split
      next there =>
        rwa [Disk.get?_put_of_ne disk place _ other (by rintro rfl; simp [folder] at there)]
      · exact folder
  | _ => exact folder

/-- A step that happens is not refused by the host and follows the rules of the disk. -/
theorem perform_eq_ok {storage after : Storage} {step : FileStep}
    (happened : storage.perform step = (.ok (), after)) :
    storage.disk.Change step after.disk ∧ after.working = storage.working ∧
      after.refusals = storage.refusals := by
  simp only [perform] at happened
  split at happened
  · simp at happened
  · split at happened
    next disk done =>
      cases happened
      exact ⟨Disk.change_of_after done, rfl, rfl⟩
    · simp at happened

theorem keeps_of_perform_ok {storage after : Storage} {step : FileStep}
    (happened : storage.perform step = (.ok (), after)) : Keeps step.touches storage after := by
  obtain ⟨change, working, refusals⟩ := perform_eq_ok happened
  exact ⟨working, refusals, change.fileAt?, change.folder⟩

theorem keeps_of_perform_error {storage after : Storage} {step : FileStep} {fault : DiskFault}
    (failed : storage.perform step = (.error fault, after)) : Keeps step.spoils storage after := by
  simp only [perform] at failed
  split at failed
  next refusal refused =>
    cases failed
    exact ⟨rfl, rfl, afterRefusal_fileAt? storage.disk refusal step,
      afterRefusal_folder storage.disk refusal step⟩
  · split at failed
    · simp at failed
    · cases failed
      exact ⟨rfl, rfl, fun _ _ => rfl, fun _ folder => folder⟩

theorem spoils_subset_touches (step : FileStep) : step.spoils ⊆ step.touches := by
  cases step <;> simp [FileStep.spoils, FileStep.touches]

theorem keeps_perform (storage : Storage) (step : FileStep) :
    Keeps step.touches storage (storage.perform step).2 := by
  cases performed : storage.perform step with
  | mk result after =>
      cases result with
      | error fault => exact (keeps_of_perform_error performed).mono (spoils_subset_touches step)
      | ok done => exact keeps_of_perform_ok performed

/-- Steps of which one fails: it is not the last one that happened, so that what only the last
step touches is as it was. -/
theorem keeps_of_performAll_error (places : List Place) (steps : List FileStep) {fault : DiskFault}
    {storage after : Storage} (touched : ∀ step ∈ steps.dropLast, step.touches ⊆ places)
    (spoiled : ∀ step ∈ steps, step.spoils ⊆ places)
    (failed : storage.performAll steps = (.error fault, after)) : Keeps places storage after := by
  induction steps generalizing storage with
  | nil => simp [performAll] at failed
  | cons step rest ih =>
      simp only [performAll] at failed
      split at failed
      next cause stopped performed =>
        cases failed
        exact (keeps_of_perform_error performed).mono (spoiled step (List.mem_cons_self ..))
      next next performed =>
        cases rest with
        | nil => simp [performAll] at failed
        | cons later others =>
            have first : step ∈ (step :: later :: others).dropLast := by simp
            have done := (keeps_of_perform_ok performed).mono (touched step first)
            refine done.trans (ih (fun s member => touched s ?_) (fun s member => spoiled s ?_) failed)
            · rw [List.dropLast_cons_of_ne_nil (by simp)]
              exact List.mem_cons_of_mem _ member
            · exact List.mem_cons_of_mem _ member

/-! ## Saving -/

theorem draftName_ne (name : String) : draftName name ≠ name := by
  intro same
  have length := congrArg (fun s => s.toList.length) same
  simp [draftName] at length
  omega

theorem draft_ne (folder : Place) (name : String) :
    folder ++ [draftName name] ≠ folder ++ [name] := by
  simpa using draftName_ne name

theorem performAll_cons_eq_ok {storage after : Storage} {step : FileStep} {rest : List FileStep}
    (run : storage.performAll (step :: rest) = (.ok (), after)) :
    ∃ next, storage.perform step = (.ok (), next) ∧ next.performAll rest = (.ok (), after) := by
  simp only [performAll] at run
  split at run
  · simp at run
  next next performed => exact ⟨next, performed, run⟩

/-- A file that is saved went through all steps. -/
theorem saveIn_steps {storage after : Storage} {folder : Place} {name : String}
    {content : ByteArray} (success : storage.saveIn folder name content = (.ok (), after)) :
    ∃ created written flushed,
      storage.perform (.create (folder ++ [draftName name])) = (.ok (), created) ∧
        created.perform (.write (folder ++ [draftName name]) content) = (.ok (), written) ∧
        written.perform (.flush (folder ++ [draftName name])) = (.ok (), flushed) ∧
        flushed.perform (.rename (folder ++ [draftName name]) (folder ++ [name])) =
          (.ok (), after) := by
  simp only [saveIn, saveSteps] at success
  split at success
  next run =>
    cases success
    obtain ⟨created, creates, run⟩ := performAll_cons_eq_ok run
    obtain ⟨written, writes, run⟩ := performAll_cons_eq_ok run
    obtain ⟨flushed, flushes, run⟩ := performAll_cons_eq_ok run
    obtain ⟨renamed, renames, run⟩ := performAll_cons_eq_ok run
    cases run
    exact ⟨created, written, flushed, creates, writes, flushes, renames⟩
  · simp at success

theorem get?_of_filled {storage written flushed : Storage} {place : Place} {content : ByteArray}
    (below : place ≠ []) (writes : storage.perform (.write place content) = (.ok (), written))
    (flushes : written.perform (.flush place) = (.ok (), flushed)) :
    flushed.disk.get? place = some (.file content) := by
  have filled : written.disk.get? place = some (.file content) := by
    obtain ⟨change, -, -⟩ := perform_eq_ok writes
    generalize written.disk = disk at change
    cases change with
    | write place content bytes there => exact Disk.get?_put_self _ _ _ below
  obtain ⟨change, -, -⟩ := perform_eq_ok flushes
  generalize flushed.disk = disk at change
  cases change with
  | flush place bytes there => exact filled

/-- A file that is saved holds the new content, and its draft is gone. -/
theorem saveIn_eq_ok {storage after : Storage} {folder : Place} {name : String}
    {content : ByteArray} (success : storage.saveIn folder name content = (.ok (), after)) :
    after.fileAt? (folder ++ [name]) = some content ∧
      after.fileAt? (folder ++ [draftName name]) = none ∧
      Keeps [folder ++ [draftName name], folder ++ [name]] storage after := by
  obtain ⟨created, written, flushed, creates, writes, flushes, renames⟩ := saveIn_steps success
  have firstKept := keeps_of_perform_ok creates
  have secondKept := keeps_of_perform_ok writes
  have thirdKept := keeps_of_perform_ok flushes
  have lastKept := keeps_of_perform_ok renames
  have flushed_there := get?_of_filled (by simp) writes flushes
  obtain ⟨change, -, -⟩ := perform_eq_ok renames
  refine ⟨?_, ?_, ?_⟩
  · simp only [fileAt?]
    generalize after.disk = disk at change
    cases change with
    | rename source target bytes there room free =>
        rw [flushed_there] at there
        cases there
        exact Disk.fileAt?_put_self _ _ _ (by simp)
  · simp only [fileAt?]
    generalize after.disk = disk at change
    cases change with
    | rename source target bytes there room free =>
        have apart := draft_ne folder name
        simp only [Disk.fileAt?, Disk.get?_put_of_ne _ _ _ _ apart]
        rw [Disk.get?_erase _ _ _ (by simp), if_pos rfl]
  · refine (firstKept.mono ?_).trans ((secondKept.mono ?_).trans ((thirdKept.mono ?_).trans
      (lastKept.mono ?_)))
    all_goals simp [FileStep.touches]

/-- A file that could not be saved is as it was; of its draft something may be left. -/
theorem keeps_of_saveIn_error {storage after : Storage} {folder : Place} {name : String}
    {content : ByteArray} {fault : DiskFault}
    (failed : storage.saveIn folder name content = (.error fault, after)) :
    Keeps [folder ++ [draftName name]] storage after := by
  simp only [saveIn] at failed
  split at failed
  · simp at failed
  next cause stopped run =>
    cases failed
    refine Keeps.trans ?_ (keeps_perform stopped (.remove _))
    apply keeps_of_performAll_error _ (saveSteps folder name content) _ _ run
    · simp [saveSteps, FileStep.touches]
    · simp [saveSteps, FileStep.spoils]

/-! ## Folders and whole paths -/

/-- The place that a path stands for, whatever is on the disk. -/
def placeOf (working : Place) (path : String) : Place :=
  (Text.pathParts path).foldl enter (startOf working path)

/-- Making folders changes no file and leads to the place that the parts stand for. -/
theorem makeFoldersFrom_spec (storage : Storage) (place : Place) (parts : List String) :
    Keeps [] storage (storage.makeFoldersFrom place parts).2 ∧
      ∀ reached, (storage.makeFoldersFrom place parts).1 = .ok reached →
        reached = parts.foldl enter place := by
  induction parts generalizing storage place with
  | nil => exact ⟨Keeps.refl [] storage, fun reached same => by cases same; rfl⟩
  | cons part rest ih =>
      simp only [makeFoldersFrom, List.foldl_cons]
      split
      · exact ih storage (enter place part)
      · exact ⟨Keeps.refl [] storage, fun reached same => by simp at same⟩
      · split
        next fault after failed =>
          exact ⟨keeps_of_perform_error failed, fun reached same => by simp at same⟩
        next after made =>
          obtain ⟨kept, leads⟩ := ih after (enter place part)
          exact ⟨(keeps_of_perform_ok made).trans kept, leads⟩

theorem makeFolders_spec (storage : Storage) (path : String) :
    Keeps [] storage (storage.makeFolders path).2 ∧
      ∀ reached, (storage.makeFolders path).1 = .ok reached →
        reached = placeOf storage.working path := by
  simp only [makeFolders]
  split
  · exact ⟨Keeps.refl [] storage, fun reached same => by simp at same⟩
  · exact makeFoldersFrom_spec storage _ _

/-- The file with a name in the folder that a path stands for. -/
def fileIn (working : Place) (folder name : String) : Place := placeOf working folder ++ [name]

theorem saveFile_eq_ok {storage after : Storage} {folder name : String} {content : ByteArray}
    (success : storage.saveFile folder name content = (.ok (), after)) :
    after.fileAt? (fileIn storage.working folder name) = some content ∧
      Keeps [fileIn storage.working folder (draftName name), fileIn storage.working folder name]
        storage after := by
  simp only [saveFile] at success
  split at success
  · simp at success
  next place made folders =>
    obtain ⟨kept, leads⟩ := makeFolders_spec storage folder
    simp only [folders] at kept leads
    have same := leads place rfl
    split at success
    · simp at success
    · obtain ⟨saved, -, changed⟩ := saveIn_eq_ok success
      rw [same] at saved changed
      exact ⟨saved, (kept.mono (by simp)).trans changed⟩

theorem keeps_of_saveFile_error {storage after : Storage} {folder name : String}
    {content : ByteArray} {fault : DiskFault}
    (failed : storage.saveFile folder name content = (.error fault, after)) :
    Keeps [fileIn storage.working folder (draftName name)] storage after := by
  simp only [saveFile] at failed
  obtain ⟨kept, leads⟩ := makeFolders_spec storage folder
  split at failed
  next cause stopped folders =>
    cases failed
    simp only [folders] at kept
    exact kept.mono (by simp)
  next place made folders =>
    simp only [folders] at kept leads
    have same := leads place rfl
    have widened := kept.mono (List.nil_subset [fileIn storage.working folder (draftName name)])
    split at failed
    · cases failed
      exact widened
    · have changed := keeps_of_saveIn_error failed
      rw [same] at changed
      exact widened.trans changed

end GameScenes.Storage
