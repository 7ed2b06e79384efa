import GameScenes.Proofs.Build.Accounts
import GameScenes.Proofs.Build.Entries
import GameScenes.Proofs.Build.Resumed

/-!
# Runs side by side

Two runs over the scenes of one document come to the same scenes in the same order.  Where they find
the same images they also enter the same names, each into its own tables, whatever else their
projects hold.
-/

set_option autoImplicit false

namespace GameScenes.Build

open Document (SceneEntry)
open ProjectFolder (KeepsImages)
open Scene (Artifact ButtonAction)

/-! ## Assets -/

/-- That the images that are found do not depend on other files of the disk. -/
def Surroundings.Steady (surroundings : Surroundings) : Prop :=
  ∀ disk other : Storage.Disk, disk.SameImages other →
    (surroundings.assets disk).FindsAs (surroundings.assets other)

/-- A store that does not look at the disk is steady. -/
theorem Surroundings.steady_of_fixed (store : AssetStore)
    (cancelled : Nat → List AssetCandidate → Bool) :
    (Surroundings.mk (fun _ => store) cancelled).Steady := fun _ _ _ => .refl store

/-- A store that looks for the images of folders on the disk is steady. -/
theorem Surroundings.steady_of_folders (folders : AssetFolders) (working : Storage.Place)
    (cancelled : Nat → List AssetCandidate → Bool) :
    (Surroundings.mk (fun disk => folders.store disk working) cancelled).Steady :=
  fun _ _ same => folders.findsAs_store same working

/-! ## What steps enter -/

namespace Progress

variable (p : Progress) (project : ProjectFolder) (index : Nat) (scene : String)

@[simp] theorem fault_ledger (d : Diagnostic) :
    (p.fault scene d).context.ledger = p.context.ledger := rfl

@[simp] theorem abort_ledger (reason : String) :
    (p.abort index scene reason).context.ledger = p.context.ledger := rfl

theorem keepTables_ledger : (p.keepTables project scene).context.ledger = p.context.ledger := by
  simp only [keepTables]
  split
  · rfl
  · exact fault_ledger _ scene _

theorem keepScene_ledger (artifact : Artifact) :
    (p.keepScene project index scene artifact).context.ledger = p.context.ledger := by
  rcases p.keepScene_cases project index scene artifact with
    ⟨saved, stored, -, same⟩ | ⟨cause, stored, -, same⟩
  · rw [same, keepTables_ledger]
  · rw [same, abort_ledger, fault_ledger]

/-- Keeping a scene leaves the images of the disk as they are. -/
theorem keepScene_keepsImages (artifact : Artifact) (prepared : project.Prepared p.storage) :
    KeepsImages p.storage (p.keepScene project index scene artifact).storage := by
  have scenes := ProjectFolder.keepsImages_saveScene prepared artifact
  rcases p.keepScene_cases project index scene artifact with
    ⟨saved, stored, kept, same⟩ | ⟨cause, stored, failed, same⟩
  · rw [kept] at scenes
    rw [same, keepTables_storage]
    exact scenes.trans
      (ProjectFolder.keepsImages_saveTables (prepared.mono scenes.keepsFolders) p.context.tables)
  · rw [failed] at scenes
    rw [same]
    exact scenes

end Progress

namespace SceneStep

variable (step : SceneStep)

theorem ledger_of_none (unbuilt : step.scene? = none) :
    step.after.context.ledger = step.before.context.ledger := by
  simp only [scene?] at unbuilt
  simp only [after, Plan.compileEntry]
  cases entry : step.entry with
  | malformed fault =>
      dsimp only
      rw [Progress.abort_ledger]
  | parsed scene =>
      rw [entry] at unbuilt
      dsimp only at unbuilt ⊢
      split at unbuilt
      next seen => rw [if_pos seen, Progress.abort_ledger, Progress.fault_ledger]
      · cases unbuilt

theorem ledger_of_some {scene : Document.Scene} (built : step.scene? = some scene) :
    step.after.context.ledger = (step.build scene).1.ledger := by
  rw [step.after_of_some built, Progress.keepScene_ledger]

end SceneStep

/-! ## Steps side by side -/

/-- That two runs are alike between two scenes: they have come to the same scenes, they know the same
assets, and their disks hold the same images. -/
structure Beside (p q : Progress) : Prop where
  alike : Alike p.context q.context
  seen : q.seen = p.seen
  images : p.storage.disk.SameImages q.storage.disk

theorem Beside.refl (p : Progress) : Beside p p := ⟨⟨rfl, rfl, .refl _⟩, rfl, .refl _⟩

namespace SceneStep

/-- Two steps over the same entry come to the same scene. -/
theorem scenes_of_beside (step other : SceneStep) (entry : other.entry = step.entry)
    (seen : other.before.seen = step.before.seen) :
    other.scene? = step.scene? ∧ other.after.seen = step.after.seen := by
  have scenes : other.scene? = step.scene? := by
    simp only [scene?]
    rw [entry, seen]
  refine ⟨scenes, ?_⟩
  cases built : step.scene? with
  | none =>
      rw [built] at scenes
      rw [(other.context_of_none scenes).2.2, (step.context_of_none built).2.2, seen]
  | some scene =>
      rw [built] at scenes
      rw [(other.context_of_some scenes).2.2, (step.context_of_some built).2.2, seen]

/-- Two steps over the same entry enter the same names. -/
theorem together_of_beside (step other : SceneStep) (plan : other.plan = step.plan)
    (entry : other.entry = step.entry) (steady : step.plan.surroundings.Steady)
    (beside : Beside step.before other.before) :
    Together step.before.context step.after.context other.before.context
      other.after.context := by
  have scenes := (scenes_of_beside step other entry beside.seen).1
  cases built : step.scene? with
  | none =>
      rw [built] at scenes
      exact .idle
        (beside.alike.mono (step.context_of_none built).1 (other.context_of_none scenes).1)
        (step.ledger_of_none built) (other.ledger_of_none scenes)
  | some scene =>
      rw [built] at scenes
      have alike : Alike
          { step.before.context with
            assets := step.plan.surroundings.assets step.before.storage.disk }
          { other.before.context with
            assets := other.plan.surroundings.assets other.before.storage.disk } := by
        rw [plan]
        exact ⟨beside.alike.imports, beside.alike.pixelsPerUnit, steady _ _ beside.images⟩
      have run := together_compileScene alike scene step.plan.tilesets step.actions other.actions
        step.plan.provenance
      obtain ⟨entries, left, right⟩ := run.entries
      refine ⟨run.alike.mono (step.context_of_some built).1 ?_, entries, ?_, ?_⟩
      · rw [(other.context_of_some scenes).1, build, plan]
      · rw [step.ledger_of_some built]
        exact left
      · rw [other.ledger_of_some scenes, build, plan]
        rw [plan] at right
        exact right

/-- A step leaves the images of the disk as they are. -/
theorem after_keepsImages (step : SceneStep)
    (prepared : step.plan.project.Prepared step.before.storage) :
    KeepsImages step.before.storage step.after.storage := by
  cases built : step.scene? with
  | none =>
      rw [(step.after_of_none built).1]
      exact .refl _
  | some scene =>
      have kept := Progress.keepScene_keepsImages
        { step.before with
          seen := SceneFile.relativePath scene.name :: step.before.seen
          context := (step.build scene).1 }
        step.plan.project step.index scene.name (step.build scene).2 prepared
      rwa [← step.after_of_some built] at kept

/-- Two steps over the same entry leave the two runs alike. -/
theorem after_beside (step other : SceneStep) (plan : other.plan = step.plan)
    (entry : other.entry = step.entry) (steady : step.plan.surroundings.Steady)
    (beside : Beside step.before other.before)
    (prepared : step.plan.project.Prepared step.before.storage)
    (again : other.plan.project.Prepared other.before.storage) :
    Beside step.after other.after where
  alike := (together_of_beside step other plan entry steady beside).alike
  seen := (scenes_of_beside step other entry beside.seen).2
  images := ((step.after_keepsImages prepared).images.symm.trans beside.images).trans
    (other.after_keepsImages again).images

end SceneStep

/-- Before their first scenes two runs of a game are alike. -/
theorem Progress.beside_start (options : Options) {surroundings : Surroundings}
    (steady : surroundings.Steady) (tables others : Tables) (draws again : Draws)
    {storage opened : Storage} (game : Document.Game)
    (images : storage.disk.SameImages opened.disk) :
    Beside (Progress.start options (surroundings.assets storage.disk) tables draws storage game)
      (Progress.start options (surroundings.assets opened.disk) others again opened game) := by
  have first := core_prepare options (surroundings.assets storage.disk) tables draws game
  have second := core_prepare options (surroundings.assets opened.disk) others again game
  refine ⟨⟨?_, ?_, ?_⟩, rfl, images⟩
  · exact (congrArg Core.imports first).trans (congrArg Core.imports second).symm
  · exact (congrArg Core.pixelsPerUnit first).trans (congrArg Core.pixelsPerUnit second).symm
  · have left : (Progress.start options (surroundings.assets storage.disk) tables draws storage
        game).context.assets = surroundings.assets storage.disk := congrArg Core.assets first
    have right : (Progress.start options (surroundings.assets opened.disk) others again opened
        game).context.assets = surroundings.assets opened.disk := congrArg Core.assets second
    rw [left, right]
    exact steady _ _ images

/-! ## Runs side by side -/

namespace Plan

variable {plan : Plan} {p q : Progress}

/-- Whatever a run does, it enters some names one after the other. -/
theorem ledger_compileEntries (steady : plan.surroundings.Steady) (p : Progress) (index : Nat)
    (entries : List SceneEntry) (actions : List (List (Option ButtonAction))) :
    ∃ names, (plan.compileEntries p index entries actions).1.context.ledger =
      p.context.ledger.enterAll names := by
  induction entries generalizing p index actions with
  | nil => exact ⟨[], rfl⟩
  | cons entry rest ih =>
      rcases plan.run_cases p index entry rest actions with ⟨-, last⟩ | ⟨-, last⟩
      · rw [last]
        exact ⟨[], rfl⟩
      · rw [last]
        have same := Beside.refl (plan.stepAt p index entry actions).before
        obtain ⟨-, first, step, -⟩ := SceneStep.together_of_beside _ _ rfl rfl steady same
        obtain ⟨others, run⟩ := ih (plan.stepAt p index entry actions).after (index + 1)
          actions.tail
        refine ⟨first ++ others, ?_⟩
        rw [run, step, Ledger.enterAll_append]
        rfl

/-- A run leaves the images of the disk as they are. -/
theorem keepsImages_compileEntries (plan : Plan) (p : Progress) (index : Nat)
    (entries : List SceneEntry) (actions : List (List (Option ButtonAction)))
    (prepared : plan.project.Prepared p.storage) :
    KeepsImages p.storage (plan.compileEntries p index entries actions).1.storage := by
  induction entries generalizing p index actions with
  | nil => exact .refl _
  | cons entry rest ih =>
      rcases plan.run_cases p index entry rest actions with ⟨-, last⟩ | ⟨-, last⟩
      · rw [last]
        exact .refl _
      · rw [last]
        have kept := (plan.stepAt p index entry actions).after_keepsImages prepared
        exact kept.trans (ih _ _ _ (prepared.mono kept.keepsFolders))

/-- A run that is not cancelled comes to every scene that another run comes to. -/
theorem scenes_of_whole (seen : q.seen = p.seen) (index : Nat) (entries : List SceneEntry)
    (actions others : List (List (Option ButtonAction)))
    (whole : (plan.compileEntries p index entries actions).2 = false) :
    (plan.steps q index entries others).map SceneStep.scene? <+:
      (plan.steps p index entries actions).map SceneStep.scene? := by
  induction entries generalizing p q index actions others with
  | nil => exact List.nil_prefix
  | cons entry rest ih =>
      rw [compileEntries_cons] at whole
      by_cases stopped : plan.surroundings.cancelled index p.context.asked = true
      · rw [if_pos stopped] at whole
        cases whole
      · rw [if_neg stopped] at whole
        rw [steps_cons, steps_cons, if_neg stopped]
        split
        · exact List.nil_prefix
        · obtain ⟨same, paths⟩ := SceneStep.scenes_of_beside (plan.stepAt p index entry actions)
            (plan.stepAt q index entry others) rfl seen
          rw [List.map_cons, List.map_cons, List.cons_prefix_cons]
          exact ⟨same, ih paths (index + 1) actions.tail others.tail whole⟩

end Plan

end GameScenes.Build
