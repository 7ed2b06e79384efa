import GameScenes.Proofs.Project.Places
import GameScenes.Proofs.Storage.Again
import GameScenes.Proofs.Storage.FilesLeft

/-!
# Files that are always whole

A file is saved by way of a draft.  Every step but the last one touches the draft alone, and the last
one replaces the file as a whole.  So at every moment, whichever step is refused and whatever was on
the disk, the file holds what it held before or all of the new content, and nothing but the draft, the
file and the missing folders on its path has changed (`saveFile_whole`).
-/

set_option autoImplicit false

namespace GameScenes.Storage

/-! ## Moments -/

/-- That the disk has a property after every step from one moment to another, and in the end. -/
structure Always (holds : Disk → Prop) (before after : Storage) : Prop where
  events : ∃ taken, after.journal = taken ++ before.journal ∧ ∀ event ∈ taken, holds event.disk
  last : holds after.disk

namespace Always

variable {holds wider : Disk → Prop} {first second third storage : Storage}

theorem refl (held : holds storage.disk) : Always holds storage storage :=
  ⟨⟨[], rfl, by simp⟩, held⟩

theorem trans (earlier : Always holds first second) (later : Always holds second third) :
    Always holds first third := by
  obtain ⟨before, journal, held⟩ := earlier.events
  obtain ⟨after, longer, still⟩ := later.events
  refine ⟨⟨after ++ before, ?_, ?_⟩, later.last⟩
  · rw [longer, journal, List.append_assoc]
  · intro event member
    rcases List.mem_append.mp member with new | old
    · exact still event new
    · exact held event old

theorem mono (always : Always holds first second) (implied : ∀ disk, holds disk → wider disk) :
    Always wider first second := by
  obtain ⟨taken, journal, held⟩ := always.events
  exact ⟨⟨taken, journal, fun event member => implied _ (held event member)⟩,
    implied _ always.last⟩

theorem perform {step : FileStep} (held : holds (storage.perform step).2.disk) :
    Always holds storage (storage.perform step).2 := by
  obtain ⟨result, journal⟩ := perform_journal storage step
  refine ⟨⟨[_], journal, ?_⟩, held⟩
  intro event member
  obtain rfl := List.mem_singleton.mp member
  exact held

/-- What each of some steps keeps is kept by all of them, up to the first that does not happen. -/
theorem performAll {steps : List FileStep} (held : holds storage.disk)
    (kept : ∀ storage : Storage, holds storage.disk → ∀ step ∈ steps,
      holds (storage.perform step).2.disk) :
    Always holds storage (storage.performAll steps).2 := by
  induction steps generalizing storage with
  | nil => exact refl held
  | cons step rest ih =>
      have first : Always holds storage (storage.perform step).2 :=
        perform (kept storage held step List.mem_cons_self)
      simp only [Storage.performAll]
      split
      next performed => rwa [performed] at first
      next performed =>
        rw [performed] at first
        exact first.trans (ih first.last fun s here later member =>
          kept s here later (List.mem_cons_of_mem _ member))

end Always

theorem performAll_append (storage : Storage) (first later : List FileStep) :
    storage.performAll (first ++ later) =
      match storage.performAll first with
      | (.error fault, stopped) => (.error fault, stopped)
      | (.ok (), done) => done.performAll later := by
  induction first generalizing storage with
  | nil => rfl
  | cons step rest ih =>
      simp only [List.cons_append, performAll]
      split
      · rfl
      · exact ih _

/-! ## What is left as it was -/

variable {before : Disk} {way : List Place} {draft target place : Place} {content : ByteArray}
  {storage : Storage}

/-- That a disk has at a place what another one had there, or a folder of a way where that one had
nothing. -/
def Disk.KeptAt (before : Disk) (way : List Place) (now : Disk) (place : Place) : Prop :=
  now.get? place = before.get? place ∨
    (place ∈ way ∧ before.get? place = none ∧ now.get? place = some .folder)

/-- That all but a draft was kept. -/
def Disk.Spared (before : Disk) (way : List Place) (draft : Place) (now : Disk) : Prop :=
  ∀ place, place ≠ draft → before.KeptAt way now place

/-- What a disk may be like while a file is saved. -/
structure Disk.Whole (before : Disk) (way : List Place) (draft target : Place)
    (content : ByteArray) (now : Disk) : Prop where
  file : now.fileAt? target = before.fileAt? target ∨ now.fileAt? target = some content
  others : ∀ place, place ≠ draft →
    before.KeptAt way now place ∨ (place = target ∧ now.get? target = some (.file content))

theorem Disk.KeptAt.fileAt? {now : Disk} (kept : before.KeptAt way now place) :
    now.fileAt? place = before.fileAt? place := by
  rcases kept with same | ⟨-, nothing, folder⟩
  · exact fileAt?_congr same
  · simp only [Disk.fileAt?, nothing, folder]

theorem Disk.KeptAt.congr {now next : Disk} (kept : before.KeptAt way now place)
    (same : next.get? place = now.get? place) : before.KeptAt way next place := by
  unfold KeptAt
  rwa [same]

theorem Disk.Spared.whole {now : Disk} (spared : before.Spared way draft now)
    (apart : target ≠ draft) : before.Whole way draft target content now where
  file := .inl (spared target apart).fileAt?
  others place other := .inl (spared place other)

/-! ## Steps that touch the draft -/

theorem Disk.Change.get? {disk next : Disk} {step : FileStep} (change : disk.Change step next)
    (none : step.MakesNone) (apart : place ∉ step.touches) : next.get? place = disk.get? place := by
  cases change with
  | makeFolder other room free => exact absurd none id
  | read other bytes there => rfl
  | create other room free =>
      exact get?_put_of_ne disk other _ place (by simpa [FileStep.touches] using apart)
  | write other content bytes there =>
      exact get?_put_of_ne disk other _ place (by simpa [FileStep.touches] using apart)
  | flush other bytes there => rfl
  | rename source target bytes there room free =>
      simp only [FileStep.touches, List.mem_cons, List.not_mem_nil, or_false, not_or] at apart
      rw [get?_put_of_ne _ target _ place apart.2, get?_erase_of_ne disk source place apart.1]
  | remove other bytes there =>
      exact get?_erase_of_ne disk other place (by simpa [FileStep.touches] using apart)

theorem get?_perform {step : FileStep} (none : step.MakesNone) (apart : place ∉ step.touches) :
    (storage.perform step).2.disk.get? place = storage.disk.get? place := by
  simp only [perform]
  split
  · exact afterRefusal_get? storage.disk _ step place fun member =>
      apart (spoils_subset_touches step member)
  · split
    next disk allowed => exact (Disk.change_of_after allowed).get? none apart
    · rfl

theorem Disk.Spared.perform (spared : before.Spared way draft storage.disk) {step : FileStep}
    (none : step.MakesNone) (only : step.touches ⊆ [draft]) :
    before.Spared way draft (storage.perform step).2.disk := by
  intro place other
  refine (spared place other).congr (get?_perform none fun member => other ?_)
  exact List.mem_singleton.mp (only member)

/-! ## Making folders -/

theorem mem_placesAlong (place : Place) (parts : List String) : place ∈ placesAlong place parts := by
  have own : place ∈ wayTo place :=
    List.mem_map.mpr ⟨place.length, by simp, List.take_length⟩
  cases parts with
  | nil => exact own
  | cons part rest => exact List.mem_append_left _ own

theorem Disk.Spared.makeFolder (spared : before.Spared way draft storage.disk) (onWay : place ∈ way) :
    before.Spared way draft (storage.perform (.makeFolder place)).2.disk := by
  simp only [Storage.perform]
  split
  · exact spared
  · split
    next disk allowed =>
      have change := Disk.change_of_after allowed
      cases change with
      | makeFolder place room free =>
          intro other apart
          by_cases same : other = place
          · subst same
            have below : other ≠ [] := by
              rintro rfl
              cases free
            rcases spared other apart with kept | ⟨-, -, folder⟩
            · exact .inr ⟨onWay, kept.symm.trans free, get?_put_self _ _ _ below⟩
            · rw [free] at folder
              cases folder
          · exact (spared other apart).congr (get?_put_of_ne _ _ _ _ same)
    · exact spared

theorem always_makeFoldersFrom (spared : before.Spared way draft storage.disk) (place : Place)
    (parts : List String) (onWay : ∀ other ∈ placesAlong place parts, other ∈ way) :
    Always (before.Spared way draft) storage (storage.makeFoldersFrom place parts).2 := by
  induction parts generalizing storage place with
  | nil => exact .refl spared
  | cons part rest ih =>
      have further : ∀ other ∈ placesAlong (enter place part) rest, other ∈ way :=
        fun other member => onWay other (List.mem_append_right _ member)
      simp only [makeFoldersFrom]
      split
      · exact ih spared _ further
      · exact .refl spared
      · have made : Always (before.Spared way draft) storage
            (storage.perform (.makeFolder (enter place part))).2 :=
          .perform (spared.makeFolder (further _ (mem_placesAlong _ rest)))
        split
        next performed => rwa [performed] at made
        next performed =>
          rw [performed] at made
          exact made.trans (ih made.last _ further)

theorem always_makeFolders (storage : Storage) (draft : Place) (path : String) :
    Always (storage.disk.Spared (placesOn storage.working path) draft) storage
      (storage.makeFolders path).2 := by
  have start : storage.disk.Spared (placesOn storage.working path) draft storage.disk :=
    fun _ _ => .inl rfl
  unfold makeFolders
  split
  · exact .refl start
  · exact always_makeFoldersFrom start _ _ fun _ member => member

/-! ## Saving -/

/-- The steps that fill the draft. -/
def draftSteps (draft : Place) (content : ByteArray) : List FileStep :=
  [.create draft, .write draft content, .flush draft]

theorem always_draftSteps (spared : before.Spared way draft storage.disk) (content : ByteArray) :
    Always (before.Spared way draft) storage (storage.performAll (draftSteps draft content)).2 := by
  refine .performAll spared fun s here step member => here.perform ?_ ?_
  · simp only [draftSteps, List.mem_cons, List.not_mem_nil, or_false] at member
    rcases member with rfl | rfl | rfl <;> trivial
  · simp only [draftSteps, List.mem_cons, List.not_mem_nil, or_false] at member
    rcases member with rfl | rfl | rfl <;> simp [FileStep.touches]

theorem get?_of_draftSteps {after : Storage} (below : draft ≠ [])
    (run : storage.performAll (draftSteps draft content) = (.ok (), after)) :
    after.disk.get? draft = some (.file content) := by
  obtain ⟨created, -, run⟩ := performAll_cons_eq_ok run
  obtain ⟨written, writes, run⟩ := performAll_cons_eq_ok run
  obtain ⟨flushed, flushes, run⟩ := performAll_cons_eq_ok run
  cases run
  exact get?_of_filled below writes flushes

/-- A draft that is filled either replaces the file as a whole, or nothing happens. -/
theorem rename_cases (below : target ≠ []) (apart : draft ≠ target)
    (filled : storage.disk.get? draft = some (.file content)) :
    (∃ after, storage.perform (.rename draft target) = (.ok (), after) ∧
        after.disk.get? target = some (.file content) ∧ after.disk.get? draft = none ∧
        ∀ place, place ≠ draft → place ≠ target →
          after.disk.get? place = storage.disk.get? place) ∨
      ∃ fault after, storage.perform (.rename draft target) = (.error fault, after) ∧
        after.disk = storage.disk := by
  simp only [perform]
  split
  · exact .inr ⟨_, _, rfl, rfl⟩
  · split
    next disk allowed =>
      refine .inl ⟨_, rfl, ?_⟩
      have change := Disk.change_of_after allowed
      cases change with
      | rename source target bytes there room free =>
          rw [filled] at there
          cases there
          have root : draft ≠ [] := by
            rintro rfl
            cases filled
          refine ⟨Disk.get?_put_self _ _ _ below, ?_, ?_⟩
          · exact (Disk.get?_put_of_ne _ _ _ _ apart).trans (Disk.get?_erase_self _ _ root)
          · intro place other besides
            exact (Disk.get?_put_of_ne _ _ _ _ besides).trans (Disk.get?_erase_of_ne _ _ _ other)
    · exact .inr ⟨_, _, rfl, rfl⟩

theorem saveIn_eq (storage : Storage) (folder : Place) (name : String) (content : ByteArray) :
    storage.saveIn folder name content =
      match storage.performAll (draftSteps (folder ++ [draftName name]) content) with
      | (.error fault, stopped) =>
          (.error fault, (stopped.perform (.remove (folder ++ [draftName name]))).2)
      | (.ok (), filled) =>
          match filled.perform (.rename (folder ++ [draftName name]) (folder ++ [name])) with
          | (.error fault, stopped) =>
              (.error fault, (stopped.perform (.remove (folder ++ [draftName name]))).2)
          | (.ok (), done) => (.ok (), done) := by
  have steps : saveSteps folder name content =
      draftSteps (folder ++ [draftName name]) content ++
        [.rename (folder ++ [draftName name]) (folder ++ [name])] := rfl
  rw [saveIn, steps, performAll_append]
  generalize storage.performAll (draftSteps _ content) = filling
  obtain ⟨result, filled⟩ := filling
  cases result with
  | error fault => rfl
  | ok done =>
      simp only [performAll]
      generalize filled.perform _ = moving
      obtain ⟨result, moved⟩ := moving
      cases result <;> rfl

/-- That saving went as it should: the disk was always as it may be, and in the end the file holds the
new content or nothing but the draft was touched. -/
structure SavesWhole (before : Disk) (way : List Place) (draft target : Place)
    (content : ByteArray) (storage : Storage) (saved : Except DiskFault Unit × Storage) : Prop where
  always : Always (before.Whole way draft target content) storage saved.2
  success : saved.1 = .ok () →
    saved.2.disk.get? target = some (.file content) ∧ saved.2.disk.get? draft = none
  failure : ∀ fault, saved.1 = .error fault → before.Spared way draft saved.2.disk

theorem SavesWhole.of_error {after : Storage} (fault : DiskFault) (apart : target ≠ draft)
    (always : Always (before.Spared way draft) storage after) :
    SavesWhole before way draft target content storage (.error fault, after) where
  always := always.mono fun _ spared => spared.whole apart
  success done := by cases done
  failure _ _ := always.last

theorem Always.remove {stopped : Storage} (always : Always (before.Spared way draft) storage stopped) :
    Always (before.Spared way draft) storage (stopped.perform (.remove draft)).2 :=
  always.trans (.perform (always.last.perform trivial (List.Subset.refl _)))

theorem savesWhole_saveIn {folder : Place} {name : String}
    (spared : before.Spared way (folder ++ [draftName name]) storage.disk) (content : ByteArray) :
    SavesWhole before way (folder ++ [draftName name]) (folder ++ [name]) content storage
      (storage.saveIn folder name content) := by
  have apart := draft_ne folder name
  have below : folder ++ [name] ≠ [] := by simp
  have below' : folder ++ [draftName name] ≠ [] := by simp
  rw [saveIn_eq]
  generalize folder ++ [draftName name] = draft at *
  generalize folder ++ [name] = target at *
  have drafted := always_draftSteps spared content
  generalize filling : storage.performAll (draftSteps draft content) = result at drafted ⊢
  obtain ⟨result, filled⟩ := result
  cases result with
  | error fault => exact .of_error fault apart.symm drafted.remove
  | ok done =>
      dsimp only at drafted ⊢
      rcases rename_cases below apart (get?_of_draftSteps below' filling) with
        ⟨after, renamed, written, gone, others⟩ | ⟨fault, stopped, failed, same⟩
      · have whole : before.Whole way draft target content after.disk := by
          refine ⟨.inr ((Disk.fileAt?_eq_some_iff _ _ _).mpr written), ?_⟩
          intro place other
          by_cases own : place = target
          · exact .inr ⟨own, written⟩
          · exact .inl ((drafted.last place other).congr (others place other own))
        have last : Always (before.Whole way draft target content) filled
            (filled.perform (.rename draft target)).2 := .perform (by rwa [renamed])
        rw [renamed] at last ⊢
        exact ⟨(drafted.mono fun _ spared => spared.whole apart.symm).trans last,
          fun _ => ⟨written, gone⟩, fun _ failed => by cases failed⟩
      · have last : Always (before.Spared way draft) filled
            (filled.perform (.rename draft target)).2 := by
          refine .perform ?_
          rw [failed, same]
          exact drafted.last
        rw [failed] at last ⊢
        exact .of_error fault apart.symm (drafted.trans last).remove

/-- Whatever was on the disk and whichever steps the host refuses: after every step the file holds what
it held before or all of the new content, and everything else but the draft is as it was, apart from
folders that were missing on the path.  The file holds the new content if saving succeeds, and then the
draft is gone; it is as it was if saving fails.  Saving does succeed on a host that refuses nothing,
where the folders are there and no folder is in the way. -/
theorem saveFile_whole (storage : Storage) (folder name : String) (content : ByteArray) :
    let saved := storage.saveFile folder name content
    let way := placesOn storage.working folder
    let target := fileIn storage.working folder name
    let draft := fileIn storage.working folder (draftName name)
    (∃ taken, saved.2.journal = taken ++ storage.journal ∧
        ∀ event ∈ taken, storage.disk.Whole way draft target content event.disk) ∧
      storage.disk.Whole way draft target content saved.2.disk ∧
      (saved.1 = .ok () → saved.2.fileAt? target = some content ∧ saved.2.disk.get? draft = none) ∧
      (∀ fault, saved.1 = .error fault →
        saved.2.fileAt? target = storage.fileAt? target ∧
          ∀ place, place ≠ draft → storage.disk.KeptAt way saved.2.disk place) ∧
      (IsPlain name → placeOf storage.working (joinPath folder name) = target) ∧
      (storage.Willing → SavableAt storage folder name → saved.1 = .ok ()) := by
  intro saved way target draft
  have apart : target ≠ draft := (draft_ne (placeOf storage.working folder) name).symm
  have whole : SavesWhole storage.disk way draft target content storage saved := by
    have made := always_makeFolders storage draft folder
    obtain ⟨-, leads⟩ := makeFolders_spec storage folder
    unfold saved saveFile
    generalize storage.makeFolders folder = result at made leads ⊢
    obtain ⟨result, opened⟩ := result
    cases result with
    | error fault => exact .of_error fault apart made
    | ok place =>
        obtain rfl := leads place rfl
        dsimp only
        cases checkPath (joinPath folder (draftName name)) with
        | error fault => exact .of_error fault apart made
        | ok done =>
            have later := savesWhole_saveIn made.last content
            exact ⟨(made.mono fun _ spared => spared.whole apart).trans later.always,
              later.success, later.failure⟩
  refine ⟨whole.always.events, whole.always.last, ?_, ?_, ?_, ?_⟩
  · intro done
    obtain ⟨written, gone⟩ := whole.success done
    exact ⟨(Disk.fileAt?_eq_some_iff _ _ _).mpr written, gone⟩
  · intro fault failed
    have spared := whole.failure fault failed
    exact ⟨(spared target apart).fileAt?, spared⟩
  · exact placeOf_joinPath storage.working folder
  · intro willing savable
    obtain ⟨after, success⟩ := saveFile_of_savableAt willing savable content
    exact congrArg Prod.fst success

end GameScenes.Storage
