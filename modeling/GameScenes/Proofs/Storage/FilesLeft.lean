import GameScenes.Project.Saving
import GameScenes.Proofs.Storage.Saving

/-!
# Steps that change no file

Looking into files and making folders leaves the files alone: whether the steps happen or are
refused, every file is as it was, in the end and after each of the steps as well.
-/

set_option autoImplicit false

namespace GameScenes.Storage

/-- That from one moment to another no file was made, changed or taken away, not even for a
while. -/
structure LeavesFiles (before after : Storage) : Prop where
  kept : Keeps [] before after
  events : ∃ taken, after.journal = taken ++ before.journal ∧
    ∀ event ∈ taken, ∀ place, event.disk.fileAt? place = before.disk.fileAt? place

namespace LeavesFiles

variable {first second third : Storage}

theorem refl (storage : Storage) : LeavesFiles storage storage :=
  ⟨Keeps.refl [] storage, [], rfl, by simp⟩

theorem trans (earlier : LeavesFiles first second) (later : LeavesFiles second third) :
    LeavesFiles first third := by
  obtain ⟨before, journal, same⟩ := earlier.events
  obtain ⟨after, longer, still⟩ := later.events
  refine ⟨earlier.kept.trans later.kept, after ++ before, ?_, ?_⟩
  · rw [longer, journal, List.append_assoc]
  · intro event member place
    rcases List.mem_append.mp member with new | old
    · exact (still event new place).trans (earlier.kept.files place (by simp))
    · exact same event old place

theorem fileAt? (left : LeavesFiles first second) (place : Place) :
    second.fileAt? place = first.fileAt? place :=
  left.kept.files place (by simp)

end LeavesFiles

/-- A step is written down with the disk after it, whether it happens or not. -/
theorem perform_journal (storage : Storage) (step : FileStep) :
    ∃ result, (storage.perform step).2.journal =
      ⟨step, result, (storage.perform step).2.disk⟩ :: storage.journal := by
  unfold perform
  split
  · exact ⟨_, rfl⟩
  · split <;> exact ⟨_, rfl⟩

theorem leavesFiles_perform (storage : Storage) (step : FileStep) (harmless : step.touches = []) :
    LeavesFiles storage (storage.perform step).2 := by
  have kept := keeps_perform storage step
  rw [harmless] at kept
  obtain ⟨result, journal⟩ := perform_journal storage step
  refine ⟨kept, [_], journal, ?_⟩
  intro event member place
  obtain rfl := List.mem_singleton.mp member
  exact kept.files place (by simp)

/-! ## Looking into files -/

theorem leavesFiles_readFile (storage : Storage) (path : String) :
    LeavesFiles storage (storage.readFile path).2 := by
  unfold readFile
  split
  · exact LeavesFiles.refl storage
  next place located =>
    have left := leavesFiles_perform storage (.read place) rfl
    split
    next performed => rwa [performed] at left
    next performed => rwa [performed] at left

theorem leavesFiles_readText (storage : Storage) (path : String) :
    LeavesFiles storage (storage.readText path).2 := by
  have left := leavesFiles_readFile storage path
  unfold readText
  split
  next read => rwa [read] at left
  next read =>
    rw [read] at left
    split <;> exact left

/-! ## Making folders -/

theorem leavesFiles_makeFoldersFrom (storage : Storage) (place : Place) (parts : List String) :
    LeavesFiles storage (storage.makeFoldersFrom place parts).2 := by
  induction parts generalizing storage place with
  | nil => exact LeavesFiles.refl storage
  | cons part rest ih =>
      simp only [makeFoldersFrom]
      split
      · exact ih storage _
      · exact LeavesFiles.refl storage
      · have made := leavesFiles_perform storage (.makeFolder (enter place part)) rfl
        split
        next performed => rwa [performed] at made
        next performed =>
          rw [performed] at made
          exact made.trans (ih _ _)

theorem leavesFiles_makeFolders (storage : Storage) (path : String) :
    LeavesFiles storage (storage.makeFolders path).2 := by
  unfold makeFolders
  split
  · exact LeavesFiles.refl storage
  · exact leavesFiles_makeFoldersFrom storage _ _

end GameScenes.Storage

namespace GameScenes.ProjectFolder

open Storage (LeavesFiles)

theorem leavesFiles_makeFolders (project : ProjectFolder) (storage : Storage) :
    LeavesFiles storage (project.makeFolders storage).2 := by
  have scenes := Storage.leavesFiles_makeFolders storage project.scenesFolder
  unfold makeFolders
  split
  next made => rwa [made] at scenes
  next opened made =>
    rw [made] at scenes
    have settings := Storage.leavesFiles_makeFolders opened project.settingsFolder
    split
    next failed =>
      rw [failed] at settings
      exact scenes.trans settings
    next done =>
      rw [done] at settings
      exact scenes.trans settings

theorem leavesFiles_load {α : Type} (storage : Storage) (path : String)
    (reader : Json.TypedReader α) (missing : α) :
    LeavesFiles storage (load storage path reader missing).2 := by
  have left := Storage.leavesFiles_readText storage path
  unfold load
  split
  next read => rwa [read] at left
  next read => rwa [read] at left
  next read =>
    rw [read] at left
    split <;> exact left

end GameScenes.ProjectFolder
