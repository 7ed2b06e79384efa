import GameScenes.Proofs.Build.Replay
import GameScenes.Proofs.Build.Steps
import GameScenes.Proofs.Project.Again

/-!
# Runs that are repeated

A run that is repeated in the project which it left behind starts from the tables that the first
run ended with.  So its scenes are built over all layers from the beginning on, which is where its
artifacts may differ from those of the first run.
-/

set_option autoImplicit false

namespace GameScenes.Build

open Document (Game SceneEntry)
open Scene (Artifact ButtonAction)
open ProjectFolder (Prepared Located TablesHeld Resavable Grows tablesName)

/-! ## What a step leaves of its context -/

namespace Progress

variable (p : Progress) (project : ProjectFolder) (index : Nat) (scene : String)

@[simp] theorem fault_core (d : Diagnostic) :
    (p.fault scene d).context.core = p.context.core := by
  unfold fault
  dsimp only
  rw [Context.core_leaveScene, Context.core_record, Context.core_enterScene]

@[simp] theorem fault_tables (d : Diagnostic) :
    (p.fault scene d).context.tables = p.context.tables := rfl

@[simp] theorem abort_core (reason : String) :
    (p.abort index scene reason).context.core = p.context.core := p.fault_core scene _

@[simp] theorem abort_tables (reason : String) :
    (p.abort index scene reason).context.tables = p.context.tables := rfl

theorem keepTables_core : (p.keepTables project scene).context.core = p.context.core := by
  unfold keepTables
  split
  · rfl
  · exact fault_core _ _ _

theorem keepTables_tables : (p.keepTables project scene).context.tables = p.context.tables := by
  unfold keepTables
  split <;> rfl

theorem keepScene_context (artifact : Artifact) :
    (p.keepScene project index scene artifact).context.core = p.context.core ∧
      (p.keepScene project index scene artifact).context.tables = p.context.tables ∧
      (p.keepScene project index scene artifact).seen = p.seen := by
  rcases p.keepScene_cases project index scene artifact with
    ⟨saved, storage, -, same⟩ | ⟨cause, storage, -, same⟩
  · rw [same, keepTables_core, keepTables_tables, keepTables_seen]
    exact ⟨rfl, rfl, rfl⟩
  · rw [same, abort_core, fault_core, abort_tables, fault_tables, abort_seen, fault_seen]
    exact ⟨rfl, rfl, rfl⟩

end Progress

namespace SceneStep

theorem context_of_none (step : SceneStep) (unbuilt : step.scene? = none) :
    step.after.context.core = step.before.context.core ∧
      step.after.context.tables = step.before.context.tables ∧
      step.after.seen = step.before.seen := by
  unfold scene? at unbuilt
  unfold after Plan.compileEntry
  cases entry : step.entry with
  | malformed fault =>
      dsimp only
      rw [Progress.abort_core, Progress.abort_tables, Progress.abort_seen]
      exact ⟨rfl, rfl, rfl⟩
  | parsed scene =>
      rw [entry] at unbuilt
      dsimp only at unbuilt ⊢
      split at unbuilt
      next seen =>
        rw [if_pos seen, Progress.abort_core, Progress.fault_core, Progress.abort_tables,
          Progress.fault_tables, Progress.abort_seen, Progress.fault_seen]
        exact ⟨rfl, rfl, rfl⟩
      · simp at unbuilt

theorem context_of_some (step : SceneStep) {scene : Document.Scene}
    (built : step.scene? = some scene) :
    step.after.context.core = (step.build scene).1.core ∧
      step.after.context.tables = (step.build scene).1.tables ∧
      step.after.seen = SceneFile.relativePath scene.name :: step.before.seen := by
  rw [step.after_of_some built]
  exact Progress.keepScene_context _ _ _ _ _

/-- Once a scene is saved the tables are saved as building it left them. -/
theorem storage_of_saved (step : SceneStep) {scene : Document.Scene}
    (built : step.scene? = some scene) {saved : SavedScene} {stored : Storage}
    (kept : step.plan.project.saveScene (step.build scene).2 step.before.storage =
      (.ok saved, stored)) :
    step.after.storage =
      (step.plan.project.saveTables (step.build scene).1.tables stored).2 := by
  rw [step.after_of_some built]
  rcases Progress.keepScene_cases
      { step.before with
        seen := SceneFile.relativePath scene.name :: step.before.seen
        context := (step.build scene).1 }
      step.plan.project step.index scene.name (step.build scene).2 with
    ⟨found, storage, again, same⟩ | ⟨cause, storage, failed, -⟩
  · rw [same, Progress.keepTables_storage]
    dsimp only at again ⊢
    rw [kept] at again
    cases again
    rfl
  · dsimp only at failed
    rw [kept] at failed
    cases failed

def layers (step : SceneStep) : List String :=
  match step.scene? with
  | none => []
  | some scene => layersOf scene.gameObjects

theorem layers_absorbed (step : SceneStep) {layers : LayerTable}
    (absorbs : ∀ scene, step.entry.scene? = some scene →
      ∀ name ∈ layersOf scene.gameObjects, layers.Absorbs name) :
    ∀ name ∈ step.layers, layers.Absorbs name := by
  unfold SceneStep.layers scene?
  cases entry : step.entry with
  | malformed fault => simp
  | parsed scene =>
      dsimp only
      split
      · simp
      next chosen built =>
        split at built
        · simp at built
        · cases built
          exact absorbs scene (by rw [entry]; rfl)

theorem layers_after (step : SceneStep) :
    step.after.context.layers = step.before.context.layers.registerAll step.layers := by
  unfold layers Context.layers
  cases built : step.scene? with
  | none =>
      rw [(step.context_of_none built).2.1]
      rfl
  | some scene =>
      rw [(step.context_of_some built).2.1]
      exact layers_compileScene _ scene _ _ _

/-! ## Steps that are repeated -/

/-- What a scene is built as over other layers. -/
def artifactOver (step : SceneStep) (layers : LayerTable) (scene : Document.Scene) : Artifact :=
  (compileScene
    { step.before.context with
      tables := { step.before.context.tables with layers }
      assets := step.plan.surroundings.assets step.before.storage.disk }
    scene step.plan.tilesets step.actions step.plan.provenance).2

/-- Over the layers of its own run a scene is what it is built as. -/
theorem artifactOver_of_layers (step : SceneStep) {layers : LayerTable}
    (same : step.before.context.layers = layers) (scene : Document.Scene) :
    step.artifactOver layers scene = (step.build scene).2 := by
  subst same
  rfl

def savedArtifact? (step : SceneStep) : Option Artifact :=
  match step.scene? with
  | none => none
  | some scene =>
      match (step.plan.project.saveScene (step.build scene).2 step.before.storage).1 with
      | .ok _ => some (step.build scene).2
      | .error _ => none

/-- The scene that a step adds to the saved ones has the name of its artifact. -/
theorem saved_names (step : SceneStep) :
    step.saved.map (·.name) = step.savedArtifact?.toList.map (·.name) := by
  unfold savedArtifact?
  cases built : step.scene? with
  | none =>
      unfold saved
      rw [(step.after_of_none built).2.1]
      simp
  | some scene =>
      have after := step.after_of_some built
      dsimp only
      rcases Progress.keepScene_cases
          { step.before with
            seen := SceneFile.relativePath scene.name :: step.before.seen
            context := (step.build scene).1 }
          step.plan.project step.index scene.name (step.build scene).2 with
        ⟨kept, storage, success, same⟩ | ⟨cause, storage, failed, same⟩
      · have name := ProjectFolder.saveScene_name success
        dsimp only at success
        unfold saved
        rw [after, same, Progress.keepTables_saved, success]
        simp [name]
      · dsimp only at failed
        unfold saved
        rw [after, same, failed]
        simp

/-- The same step of a run that has come elsewhere. -/
def resumed (step : SceneStep) (q : Progress) : SceneStep := { step with before := q }

variable (step : SceneStep) {q : Progress} {store : AssetStore}

theorem scene?_resumed (seen : q.seen = step.before.seen) :
    (step.resumed q).scene? = step.scene? := by
  unfold scene? resumed
  rw [seen]

theorem core_build_resumed (fixed : step.plan.surroundings.assets = fun _ => store)
    (core : q.context.core = step.before.context.core) (scene : Document.Scene) :
    ((step.resumed q).build scene).1.core = (step.build scene).1.core := by
  apply core_compileScene
  dsimp only [resumed]
  rw [fixed]
  exact congrArg (fun known : Core => { known with assets := store }) core

/-- A step leaves the same core behind over other layers. -/
theorem after_resumed (fixed : step.plan.surroundings.assets = fun _ => store)
    (core : q.context.core = step.before.context.core) (seen : q.seen = step.before.seen) :
    (step.resumed q).after.context.core = step.after.context.core ∧
      (step.resumed q).after.seen = step.after.seen := by
  have scenes := step.scene?_resumed seen
  cases built : step.scene? with
  | none =>
      rw [built] at scenes
      obtain ⟨first, -, firstSeen⟩ := (step.resumed q).context_of_none scenes
      obtain ⟨second, -, secondSeen⟩ := step.context_of_none built
      exact ⟨first.trans (core.trans second.symm), firstSeen.trans (seen.trans secondSeen.symm)⟩
  | some scene =>
      rw [built] at scenes
      obtain ⟨first, -, firstSeen⟩ := (step.resumed q).context_of_some scenes
      obtain ⟨second, -, secondSeen⟩ := step.context_of_some built
      refine ⟨first.trans ((step.core_build_resumed fixed core scene).trans second.symm), ?_⟩
      rw [firstSeen, secondSeen]
      exact congrArg _ seen

theorem build_resumed (fixed : step.plan.surroundings.assets = fun _ => store)
    (core : q.context.core = step.before.context.core) (scene : Document.Scene) :
    ((step.resumed q).build scene).2 = step.artifactOver q.context.layers scene := by
  apply compileScene_congr
  · dsimp only [resumed]
    rw [fixed]
    exact congrArg (fun known : Core => { known with assets := store }) core
  · rfl

/-- On a willing host a step saves its scene where the project can take it. -/
theorem savedArtifact?_of_resavable (willing : step.before.storage.Willing)
    (prepared : step.plan.project.Prepared step.before.storage)
    (resavable : ∀ scene, step.scene? = some scene →
      step.plan.project.Resavable step.before.storage scene.name) :
    step.savedArtifact? = step.scene?.map (fun scene => (step.build scene).2) ∧
      step.plan.project.Grows step.before.storage step.after.storage := by
  cases built : step.scene? with
  | none =>
      unfold savedArtifact?
      rw [built, (step.after_of_none built).1]
      exact ⟨rfl, Grows.refl _⟩
  | some scene =>
      have name : (step.build scene).2.name = scene.name := compileScene_name ..
      have possible := resavable scene built
      rw [← name] at possible
      obtain ⟨saved, stored, kept, grows⟩ :=
        ProjectFolder.saveScene_of_resavable willing prepared possible
      constructor
      · unfold savedArtifact?
        rw [built]
        dsimp only
        rw [kept]
        rfl
      · rw [step.storage_of_saved built kept]
        exact grows.trans (ProjectFolder.grows_saveTables (prepared.mono grows.keepsFolders) _)

/-- A step that is repeated saves its scene as it is built over the layers that are there now. -/
theorem savedArtifact?_resumed (fixed : step.plan.surroundings.assets = fun _ => store)
    (core : q.context.core = step.before.context.core) (seen : q.seen = step.before.seen)
    (willing : q.storage.Willing) (prepared : step.plan.project.Prepared q.storage)
    (resavable : ∀ scene, step.scene? = some scene →
      step.plan.project.Resavable q.storage scene.name) :
    (step.resumed q).savedArtifact? = step.scene?.map (step.artifactOver q.context.layers) ∧
      step.plan.project.Grows q.storage (step.resumed q).after.storage := by
  have scenes := step.scene?_resumed seen
  rw [← scenes] at resavable
  obtain ⟨saved, grows⟩ := (step.resumed q).savedArtifact?_of_resavable willing prepared resavable
  refine ⟨?_, grows⟩
  rw [saved, scenes]
  exact congrArg (fun build => step.scene?.map build) (funext (step.build_resumed fixed core))

/-! ## Steps without a fault of the disk -/

/-- Whether a step saves the scene that it builds, and the tables. -/
def succeeds (step : SceneStep) : Bool :=
  match step.scene? with
  | none => true
  | some scene =>
      match step.plan.project.saveScene (step.build scene).2 step.before.storage with
      | (.error _, _) => false
      | (.ok _, stored) =>
          (step.plan.project.saveTables (step.build scene).1.tables stored).1.isOk

theorem savedArtifact?_of_succeeds (success : step.succeeds = true) :
    step.savedArtifact? = step.scene?.map fun scene => (step.build scene).2 := by
  unfold succeeds at success
  unfold savedArtifact?
  cases built : step.scene? with
  | none => rfl
  | some scene =>
      rw [built] at success
      dsimp only at success ⊢
      split at success
      · simp at success
      next stored => rw [stored]; rfl

/-- A step that succeeds leaves a project in which its scene can be saved again, and which holds
the tables of the run. -/
theorem after_of_succeeds (success : step.succeeds = true) {scene : Document.Scene}
    (built : step.scene? = some scene) (prepared : step.plan.project.Prepared step.before.storage)
    (located : step.plan.project.Located step.before.storage tablesName) :
    step.plan.project.Grows step.before.storage step.after.storage ∧
      step.plan.project.Resavable step.after.storage scene.name ∧
      step.plan.project.TablesHeld step.after.storage step.after.context.tables := by
  unfold succeeds at success
  rw [built] at success
  dsimp only at success
  split at success
  · simp at success
  next saved stored kept =>
    have name : (step.build scene).2.name = scene.name := compileScene_name ..
    obtain ⟨grows, resavable⟩ := ProjectFolder.resavable_of_saveScene prepared kept
    rw [name] at resavable
    have opened := prepared.mono grows.keepsFolders
    have later := ProjectFolder.grows_saveTables opened (step.build scene).1.tables
    have tables := (step.context_of_some built).2.1
    rw [step.storage_of_saved built kept, tables]
    refine ⟨grows.trans later, resavable.mono later, ?_⟩
    generalize written : step.plan.project.saveTables (step.build scene).1.tables stored = result
      at success ⊢
    obtain ⟨outcome, finished⟩ := result
    cases outcome with
    | error fault => simp [Except.isOk, Except.toBool] at success
    | ok done =>
        exact ProjectFolder.tablesHeld_of_saveTables (located.mono grows.keepsFolders) written

end SceneStep

end GameScenes.Build
