import GameScenes.Proofs.Build.Steps
import GameScenes.Proofs.Project.SceneFiles

/-!
# What scenes leave behind that are given up

A scene that is given up should leave the scene files as it found them.  It does so if and only if
it did not come as far as its own file, or that file held the very same bytes before
(`compileGame_abandons_iff`).  A scene whose own file is saved and that cannot be listed afterwards
is given up too, but its file stays (`compileGame_keeps_file_of_aborted_scene`).
-/

set_option autoImplicit false

namespace GameScenes.Build

open Storage (Disk Place)

namespace SceneStep

/-- That a step leaves all scene files as they were. -/
def Abandons (step : SceneStep) : Prop :=
  ∀ stem, step.plan.project.sceneFile? step.after.storage stem =
    step.plan.project.sceneFile? step.before.storage stem

/-- The scene file that is saved for a scene which is given up afterwards, because the list of
scenes cannot be read or saved. -/
def leftover? (step : SceneStep) : Option (String × ByteArray) :=
  match step.scene? with
  | none => none
  | some scene =>
      let artifact := (step.build scene).2
      match step.plan.project.saveOwnFile artifact step.before.storage with
      | (.error _, _) => none
      | (.ok (), storage) =>
          match (step.plan.project.registerBuildScene (SceneFile.relativePath artifact.name)
            storage).1 with
          | .ok _ => none
          | .error _ =>
              some (SceneFile.safeName artifact.name, ProjectFolder.sceneBytes artifact)

/-- The scene files after a step that gives a scene up. -/
theorem sceneFile?_after (step : SceneStep) (gaveUp : step.aborted ≠ []) (stem : String) :
    step.plan.project.sceneFile? step.after.storage stem =
      match step.leftover? with
      | none => step.plan.project.sceneFile? step.before.storage stem
      | some (own, bytes) =>
          if stem = own then some bytes
          else step.plan.project.sceneFile? step.before.storage stem := by
  unfold leftover?
  cases built : step.scene? with
  | none => rw [(step.after_of_none built).1]
  | some scene =>
      dsimp only
      rcases Progress.keepScene_cases
          { step.before with
            seen := SceneFile.relativePath scene.name :: step.before.seen
            context := (step.build scene).1 }
          step.plan.project step.index scene.name (step.build scene).2 with
        ⟨saved, storage, kept, same⟩ | ⟨cause, storage, failed, same⟩
      · -- a scene that is kept is not given up
        have none : step.aborted = [] := by
          unfold aborted
          rw [step.after_of_some built, same]
          simp
        exact absurd none gaveUp
      · have stored : step.after.storage = storage := by
          rw [step.after_of_some built, same]
          rfl
        rw [stored]
        dsimp only at failed
        cases own : step.plan.project.saveOwnFile (step.build scene).2 step.before.storage with
        | mk result opened =>
            cases result with
            | error fault =>
                have refused := ProjectFolder.saveScene_of_own_error own
                rw [refused] at failed
                cases failed
                exact ProjectFolder.sceneFile?_of_own_error own stem
            | ok done =>
                obtain ⟨sameStorage, sameResult⟩ := ProjectFolder.saveScene_of_own_ok own
                have files := ProjectFolder.sceneFile?_of_own_ok own stem
                rw [failed] at files sameResult
                dsimp only
                cases listed : (step.plan.project.registerBuildScene
                    (SceneFile.relativePath (step.build scene).2.name) opened).1 with
                | ok added => simp [listed, Except.map] at sameResult
                | error fault => exact files

theorem abandons_iff (step : SceneStep) (gaveUp : step.aborted ≠ []) :
    step.Abandons ↔
      ∀ own bytes, step.leftover? = some (own, bytes) →
        step.plan.project.sceneFile? step.before.storage own = some bytes := by
  unfold Abandons
  constructor
  · intro unchanged own bytes left
    have stays := step.sceneFile?_after gaveUp own
    rw [left] at stays
    simpa [unchanged own] using stays
  · intro held stem
    rw [step.sceneFile?_after gaveUp stem]
    cases left : step.leftover? with
    | none => rfl
    | some leftover =>
        obtain ⟨own, bytes⟩ := leftover
        dsimp only
        split
        next same => rw [same, held own bytes left]
        · rfl

end SceneStep

/-- The aborted scenes that a run reports are those that its steps give up.  Such a step leaves all
scene files as they were exactly when it leaves behind no file of its own but one that was there
with the same content. -/
theorem compileGame_abandons_iff (options : Options) (surroundings : Surroundings)
    (draws : Draws) (storage : Storage) (raw : String) :
    (compileGame options surroundings draws storage raw).aborted =
        (gameSteps options surroundings draws storage raw).flatMap SceneStep.aborted ∧
      ∀ step ∈ gameSteps options surroundings draws storage raw, step.aborted ≠ [] →
        (step.Abandons ↔
          ∀ own bytes, step.leftover? = some (own, bytes) →
            step.plan.project.sceneFile? step.before.storage own = some bytes) :=
  ⟨compileGame_aborted options surroundings draws storage raw,
    fun step _ gaveUp => step.abandons_iff gaveUp⟩

/-! ## A project whose list of scenes is broken -/

/-- A run into the folder `proj`. -/
def plainOptions : Options := ⟨⟨"proj"⟩, [], [], currentVersion⟩

/-- A store without assets, and a run that nobody cancels. -/
def bareSurroundings : Surroundings :=
  ⟨fun _ => ⟨fun _ => .ok none, AssetCandidate.describe⟩, fun _ _ => false⟩

def plainDraws : Draws := ⟨fun _ => 1, 0⟩

/-- A project whose list of scenes to build is no Json. -/
def brokenListStorage : Storage :=
  Storage.start
    ⟨[(["proj"], .folder), (["proj", "ProjectSettings"], .folder),
      (["proj", "ProjectSettings", "EditorBuildSettings.json"], .file "\x7bnot json".toUTF8)]⟩
    [] fun _ => none

def loneSceneText : String := "\x7b\"game\":\x7b\"scenes\":[\x7b\"name\":\"A\"\x7d]\x7d\x7d"

/-- A game whose two scenes have one name. -/
def namesakesText : String :=
  "\x7b\"game\":\x7b\"scenes\":[\x7b\"name\":\"A\"\x7d,\x7b\"name\":\"A\"\x7d]\x7d\x7d"

/-- Where the list of scenes is broken, the scene is reported as aborted, and yet there is a scene
file that was not there before. -/
theorem compileGame_keeps_file_of_aborted_scene :
    (compileGame plainOptions bareSurroundings plainDraws brokenListStorage
        loneSceneText).aborted.map (·.name) = ["A"] ∧
      ∃ step ∈ gameSteps plainOptions bareSurroundings plainDraws brokenListStorage loneSceneText,
        step.aborted ≠ [] ∧ ¬ step.Abandons := by
  have reported : (compileGame plainOptions bareSurroundings plainDraws brokenListStorage
      loneSceneText).aborted.map (·.name) = ["A"] := by decide +kernel
  have facts : (gameSteps plainOptions bareSurroundings plainDraws brokenListStorage
      loneSceneText).any (fun step => step.aborted != [] &&
        ((step.plan.project.sceneFile? step.before.storage "A").isNone &&
          (step.plan.project.sceneFile? step.after.storage "A").isSome)) = true := by
    decide +kernel
  refine ⟨reported, ?_⟩
  obtain ⟨step, member, found⟩ := List.any_eq_true.mp facts
  simp only [Bool.and_eq_true, bne_iff_ne] at found
  obtain ⟨gaveUp, missing, there⟩ := found
  refine ⟨step, member, gaveUp, ?_⟩
  intro abandons
  rw [abandons "A", Option.isNone_iff_eq_none.mp missing] at there
  simp at there

/-- A scene that has the file of an earlier one is given up and leaves nothing behind. -/
theorem compileGame_abandons_namesake :
    ∃ step ∈ gameSteps plainOptions bareSurroundings plainDraws
      (Storage.start Disk.empty [] fun _ => none) namesakesText,
      step.aborted ≠ [] ∧ step.Abandons := by
  have facts : (gameSteps plainOptions bareSurroundings plainDraws
      (Storage.start Disk.empty [] fun _ => none) namesakesText).any (fun step =>
        step.aborted != [] && step.leftover?.isNone) = true := by decide +kernel
  obtain ⟨step, member, found⟩ := List.any_eq_true.mp facts
  simp only [Bool.and_eq_true, bne_iff_ne] at found
  obtain ⟨gaveUp, none⟩ := found
  refine ⟨step, member, gaveUp, ((compileGame_abandons_iff _ _ _ _ _).2 step member gaveUp).mpr ?_⟩
  intro own bytes left
  rw [Option.isNone_iff_eq_none.mp none] at left
  simp at left

end GameScenes.Build
