import GameScenes.Proofs.Build.Abandoned
import GameScenes.Proofs.Storage.FilesLeft

/-!
# Runs that end without a report

A run ends without a report when its document is rejected, or when the folders of its project cannot
be made or its tables cannot be loaded; from the first scene on every fault goes into the report.
Up to there a run only makes folders and looks into files, so a run without a report leaves every
file as it was, and one with a rejected document does nothing at all
(`compileGame_error_leaves_files`).
-/

set_option autoImplicit false

namespace GameScenes.Build

open Document (Game Rejection)
open Storage (LeavesFiles)

/-- The ways to end a run without a report, and how far it came on them. -/
inductive EndsEarly (options : Options) (storage : Storage) (raw : String) :
    CompileFault → Storage → Prop where
  | rejected (rejection : Rejection) (read : Game.read raw = .error rejection) :
      EndsEarly options storage raw (.rejected rejection) storage
  | noFolders (game : Game) (fault : OutputFault) (made : Storage)
      (read : Game.read raw = .ok game)
      (folders : options.project.makeFolders storage = (.error fault, made)) :
      EndsEarly options storage raw (.output fault) made
  | noTables (game : Game) (fault : OutputFault) (made opened : Storage)
      (read : Game.read raw = .ok game)
      (folders : options.project.makeFolders storage = (.ok (), made))
      (loaded : options.project.loadTables made = (.error fault, opened)) :
      EndsEarly options storage raw (.output fault) opened

/-- There is no other way: a run that comes to its scenes ends with a report. -/
theorem endsEarly_of_error {options : Options} {surroundings : Surroundings} {draws : Draws}
    {storage : Storage} {raw : String} {fault : CompileFault}
    (failed : (compileGame options surroundings draws storage raw).result = .error fault) :
    EndsEarly options storage raw fault
      (compileGame options surroundings draws storage raw).storage := by
  unfold compileGame at failed ⊢
  cases read : Game.read raw with
  | error rejection =>
      rw [read] at failed
      cases failed
      exact .rejected rejection read
  | ok game =>
      rw [read] at failed
      dsimp only at failed ⊢
      generalize folders : options.project.makeFolders storage = result at failed ⊢
      obtain ⟨done, made⟩ := result
      cases done with
      | error cause =>
          cases failed
          exact .noFolders game cause made read folders
      | ok done =>
          dsimp only at failed ⊢
          generalize loaded : options.project.loadTables made = result at failed ⊢
          obtain ⟨found, opened⟩ := result
          cases found with
          | error cause =>
              cases failed
              exact .noTables game cause made opened read folders loaded
          | ok tables => cases failed

namespace EndsEarly

variable {options : Options} {storage after : Storage} {raw : String} {fault : CompileFault}

theorem leavesFiles (early : EndsEarly options storage raw fault after) :
    LeavesFiles storage after := by
  cases early with
  | rejected rejection read => exact LeavesFiles.refl storage
  | noFolders game cause made read folders =>
      have made := options.project.leavesFiles_makeFolders storage
      rwa [folders] at made
  | noTables game cause made opened read folders loaded =>
      have first := options.project.leavesFiles_makeFolders storage
      have second : LeavesFiles made (options.project.loadTables made).2 :=
        ProjectFolder.leavesFiles_load made _ _ _
      rw [folders] at first
      rw [loaded] at second
      exact first.trans second

end EndsEarly

/-- A run that ends without a report leaves every file as it was, at each of its steps; when its
document is rejected it takes no step. -/
theorem compileGame_error_leaves_files {options : Options} {surroundings : Surroundings}
    {draws : Draws} {storage : Storage} {raw : String} {fault : CompileFault}
    (failed : (compileGame options surroundings draws storage raw).result = .error fault) :
    LeavesFiles storage (compileGame options surroundings draws storage raw).storage ∧
      ∀ rejection, fault = .rejected rejection →
        (compileGame options surroundings draws storage raw).storage = storage := by
  have early := endsEarly_of_error failed
  refine ⟨early.leavesFiles, ?_⟩
  rintro rejection rfl
  generalize (compileGame options surroundings draws storage raw).storage = after at early
  cases early with
  | rejected _ read => rfl

/-! ## A project whose tables are broken -/

/-- A project whose tables are no Json, with a scene file. -/
def brokenTablesStorage : Storage :=
  Storage.start
    ⟨[(["proj"], .folder), (["proj", "Assets"], .folder), (["proj", "Assets", "Scenes"], .folder),
      (["proj", "Assets", "Scenes", "A.scene.json"], .file "old".toUTF8),
      (["proj", "ProjectSettings"], .folder),
      (["proj", "ProjectSettings", "TagManager.json"], .file "\x7bnot json".toUTF8)]⟩
    [] fun _ => none

theorem compileGame_error_leaves_files_broken_tables :
    (∃ cause, (compileGame plainOptions bareSurroundings plainDraws brokenTablesStorage
        loneSceneText).result = .error (.output cause)) ∧
      (compileGame plainOptions bareSurroundings plainDraws brokenTablesStorage
        loneSceneText).storage.fileAt? ["proj", "Assets", "Scenes", "A.scene.json"] =
          some "old".toUTF8 ∧
      (∃ rejection, (compileGame plainOptions bareSurroundings plainDraws brokenTablesStorage
        "[]").result = .error (.rejected rejection)) ∧
      (compileGame plainOptions bareSurroundings plainDraws brokenTablesStorage "[]").storage =
        brokenTablesStorage := by
  obtain ⟨cause, failed⟩ : ∃ cause, (compileGame plainOptions bareSurroundings plainDraws
      brokenTablesStorage loneSceneText).result = .error (.output cause) := by
    have facts : (match (compileGame plainOptions bareSurroundings plainDraws
        brokenTablesStorage loneSceneText).result with
      | .error (.output _) => true
      | _ => false) = true := by decide +kernel
    split at facts
    next cause failed => exact ⟨cause, failed⟩
    · cases facts
  obtain ⟨rejection, rejected⟩ : ∃ rejection, (compileGame plainOptions bareSurroundings plainDraws
      brokenTablesStorage "[]").result = .error (.rejected rejection) := by
    have facts : (match (compileGame plainOptions bareSurroundings plainDraws
        brokenTablesStorage "[]").result with
      | .error (.rejected _) => true
      | _ => false) = true := by decide +kernel
    split at facts
    next rejection rejected => exact ⟨rejection, rejected⟩
    · cases facts
  refine ⟨⟨cause, failed⟩, ?_, ⟨rejection, rejected⟩, ?_⟩
  · exact (compileGame_error_leaves_files failed).1.fileAt? _
  · exact (compileGame_error_leaves_files rejected).2 rejection rfl

end GameScenes.Build
