import GameScenes.Proofs.Build.Accounts

/-!
# The faults of one scene

What a run records at a scene it records under the name of this scene: the faults of the features
that it built, and then the errors of the scene as a whole, which tell how the scene ended
(`SceneStep.recorded_eq`).  Afterwards no scene is being worked on.
-/

set_option autoImplicit false

namespace GameScenes

/-- The name under which a document's scene is reported. -/
def Document.SceneEntry.name : Document.SceneEntry → String
  | malformed fault => fault.name
  | parsed scene => scene.name

/-- An error of a scene as a whole. -/
def Diagnostic.ofScene (code : DiagnosticCode) (scene message : String) : Diagnostic :=
  { error code message with scene := some scene, value := some scene }

/-- A fault that is put under the name of a scene. -/
def Diagnostic.under (scene : String) (d : Diagnostic) : Diagnostic :=
  { d with scene := some scene }

theorem DiagnosticLog.locate_of_feature {log : DiagnosticLog} {scene : String} {d : Diagnostic}
    (within : log.scene = some scene) (feature : d.OfFeature) : log.locate d = d.under scene := by
  rw [locate, feature.scene, within]
  rfl

namespace ProjectFolder

variable (project : ProjectFolder)

/-- The errors of saving the tables after a scene. -/
def tablesErrors (tables : Tables) (storage : Storage) (scene : String) : List Diagnostic :=
  match (project.saveTables tables storage).1 with
  | .ok () => []
  | .error cause => [.ofScene .outputFailed scene cause.message]

/-- The errors of keeping a scene that was built. -/
def keepingErrors (artifact : Scene.Artifact) (tables : Tables) (storage : Storage)
    (scene : String) : List Diagnostic :=
  match project.saveScene artifact storage with
  | (.ok _, stored) => project.tablesErrors tables stored scene
  | (.error cause, _) =>
      [.ofScene .outputFailed scene cause.message,
        .ofScene .sceneAborted scene ("failed to write scene: " ++ cause.message)]

theorem scene_of_mem_keepingErrors {artifact : Scene.Artifact} {tables : Tables}
    {storage : Storage} {scene : String} :
    ∀ d ∈ project.keepingErrors artifact tables storage scene, d.scene = some scene := by
  unfold keepingErrors tablesErrors
  split
  · split <;> simp [Diagnostic.ofScene]
  · simp [Diagnostic.ofScene]

end ProjectFolder

namespace Build

open Document (SceneEntry)
open Scene (Artifact)

namespace Progress

variable (p : Progress) (project : ProjectFolder) (index : Nat) (scene : String)

/-- The faults that are on record. -/
def entries : List Diagnostic := p.context.log.entries.toList

theorem fault_entries (code : DiagnosticCode) (message : String) :
    (p.fault scene (.error code message)).entries = p.entries ++ [.ofScene code scene message] :=
  p.fault_log scene rfl

theorem abort_entries (reason : String) :
    (p.abort index scene reason).entries = p.entries ++ [.ofScene .sceneAborted scene reason] :=
  p.fault_log scene rfl

theorem keepTables_entries :
    (p.keepTables project scene).entries =
      p.entries ++ project.tablesErrors p.context.tables p.storage scene := by
  unfold keepTables ProjectFolder.tablesErrors
  split
  next storage stored =>
    rw [stored]
    exact (List.append_nil _).symm
  next cause storage stored =>
    rw [stored]
    exact fault_entries _ _ _ _

theorem keepScene_entries (artifact : Artifact) :
    (p.keepScene project index scene artifact).entries =
      p.entries ++ project.keepingErrors artifact p.context.tables p.storage scene := by
  unfold ProjectFolder.keepingErrors
  rcases p.keepScene_cases project index scene artifact with
    ⟨saved, storage, kept, same⟩ | ⟨cause, storage, failed, same⟩
  · rw [same, keepTables_entries, kept]
    rfl
  · rw [same, abort_entries, fault_entries, failed, List.append_assoc]
    rfl

theorem keepScene_log_scene (artifact : Artifact) (outside : p.context.log.scene = none) :
    (p.keepScene project index scene artifact).context.log.scene = none := by
  rcases p.keepScene_cases project index scene artifact with
    ⟨saved, storage, -, same⟩ | ⟨cause, storage, -, same⟩
  · rw [same]
    unfold keepTables
    split
    · exact outside
    · rfl
  · rw [same]
    rfl

end Progress

namespace SceneStep

variable (step : SceneStep)

/-- The faults that a step adds to those of the run. -/
def recorded : List Diagnostic := step.after.entries.drop step.before.entries.length

/-- The errors of a scene as a whole: that it is malformed, that an earlier scene has its file, or
what went wrong when it was kept. -/
def errors : List Diagnostic :=
  match step.entry, step.scene? with
  | .malformed fault, _ => [.ofScene .sceneAborted fault.name fault.text]
  | .parsed scene, none =>
      [.ofScene .duplicateSceneName scene.name
          "an earlier scene already writes to the same output file",
        .ofScene .sceneAborted scene.name "duplicate scene name"]
  | .parsed _, some scene =>
      step.plan.project.keepingErrors (step.build scene).2 (step.build scene).1.tables
        step.before.storage scene.name

theorem entry_of_scene? {scene : Document.Scene} (built : step.scene? = some scene) :
    step.entry = .parsed scene := by
  unfold scene? at built
  split at built
  · cases built
  next spec entry =>
    split at built
    · cases built
    · cases built
      exact entry

theorem after_entries_of_none (unbuilt : step.scene? = none) :
    step.after.entries = step.before.entries ++ step.errors := by
  unfold errors
  rw [unbuilt]
  unfold scene? at unbuilt
  unfold after Plan.compileEntry
  cases entry : step.entry with
  | malformed fault => exact Progress.abort_entries _ _ _ _
  | parsed scene =>
      rw [entry] at unbuilt
      dsimp only at unbuilt ⊢
      split at unbuilt
      next seen =>
        rw [if_pos seen, Progress.abort_entries, Progress.fault_entries, List.append_assoc]
        rfl
      · cases unbuilt

/-- Building a scene records faults of its features before it is kept. -/
theorem after_entries_of_some {scene : Document.Scene} (built : step.scene? = some scene) :
    ∃ faults : List Diagnostic, (∀ d ∈ faults, d.OfFeature) ∧
      step.after.entries =
        step.before.entries ++ (faults.map (Diagnostic.under scene.name) ++ step.errors) := by
  obtain ⟨faults, features, log⟩ := compileScene_log
    { step.before.context with
      assets := step.plan.surroundings.assets step.before.storage.disk }
    scene step.plan.tilesets step.actions step.plan.provenance
  refine ⟨faults, features, ?_⟩
  have own : (step.build scene).1.log.entries.toList =
      step.before.entries ++ faults.map (Diagnostic.under scene.name) := by
    unfold build
    rw [log]
    refine (DiagnosticLog.pushAll_entries _ faults).trans (congrArg (_ ++ ·) ?_)
    exact List.map_congr_left fun d member =>
      DiagnosticLog.locate_of_feature rfl (features d member)
  unfold errors
  rw [built, step.entry_of_scene? built, step.after_of_some built, Progress.keepScene_entries,
    ← List.append_assoc, ← own]
  rfl

theorem after_entries : step.after.entries = step.before.entries ++ step.recorded := by
  unfold recorded
  cases built : step.scene? with
  | none =>
      rw [step.after_entries_of_none built]
      simp
  | some scene =>
      obtain ⟨faults, -, whole⟩ := step.after_entries_of_some built
      rw [whole]
      simp

/-- A step records faults of features, none unless its scene is built, and then the errors of its
scene, all of them under the scene's name. -/
theorem recorded_eq :
    ∃ faults : List Diagnostic, (∀ d ∈ faults, d.OfFeature) ∧
      (step.scene? = none → faults = []) ∧
      step.recorded = faults.map (Diagnostic.under step.entry.name) ++ step.errors := by
  cases built : step.scene? with
  | none =>
      refine ⟨[], by simp, fun _ => rfl, ?_⟩
      have whole := step.after_entries
      rw [step.after_entries_of_none built] at whole
      exact (List.append_cancel_left whole).symm
  | some scene =>
      obtain ⟨faults, features, own⟩ := step.after_entries_of_some built
      refine ⟨faults, features, by simp, ?_⟩
      have whole := step.after_entries
      rw [own] at whole
      rw [step.entry_of_scene? built]
      exact (List.append_cancel_left whole).symm

theorem scene_of_mem_errors : ∀ d ∈ step.errors, d.scene = some step.entry.name := by
  unfold errors
  cases built : step.scene? with
  | some scene =>
      rw [step.entry_of_scene? built]
      exact ProjectFolder.scene_of_mem_keepingErrors _
  | none =>
      cases step.entry with
      | malformed fault => simp [Diagnostic.ofScene, SceneEntry.name]
      | parsed scene => simp [Diagnostic.ofScene, SceneEntry.name]

/-- Whatever is recorded at a scene is recorded under its name. -/
theorem scene_of_mem_recorded : ∀ d ∈ step.recorded, d.scene = some step.entry.name := by
  obtain ⟨faults, -, -, whole⟩ := step.recorded_eq
  intro d member
  rw [whole] at member
  rcases List.mem_append.mp member with feature | error
  · obtain ⟨fault, -, rfl⟩ := List.mem_map.mp feature
    rfl
  · exact step.scene_of_mem_errors d error

/-- However a scene ends, no scene is being worked on afterwards. -/
theorem after_log_scene : step.after.context.log.scene = none := by
  cases built : step.scene? with
  | some scene =>
      rw [step.after_of_some built]
      apply Progress.keepScene_log_scene
      show (step.build scene).1.log.scene = none
      unfold build
      rw [compileScene_steps]
      rfl
  | none =>
      unfold scene? at built
      unfold after Plan.compileEntry
      cases entry : step.entry with
      | malformed fault => rfl
      | parsed scene =>
          rw [entry] at built
          dsimp only at built ⊢
          split at built
          next seen =>
            rw [if_pos seen]
            rfl
          · cases built

end SceneStep

/-- The faults of a report are those from before the first scene and those of all steps. -/
theorem compileScenes_diagnostics {options : Options} {surroundings : Surroundings}
    {digest : String} {tables : Tables} {draws : Draws} {storage : Storage} {game : Document.Game}
    {report : Report}
    (reported : (compileScenes options surroundings digest tables draws storage game).result =
      .ok report) :
    report.diagnostics =
      (prepare options (surroundings.assets storage.disk) tables draws game).1.log.entries.toList ++
        (sceneSteps options surroundings digest tables draws storage game).flatMap
          SceneStep.recorded := by
  obtain ⟨ended, same, outcome⟩ :=
    compileScenes_eq options surroundings digest tables draws storage game
  rw [outcome] at reported
  cases reported
  have whole := Plan.compileEntries_adds Progress.entries SceneStep.recorded
    SceneStep.after_entries (Plan.ofGame options surroundings digest game)
    (Progress.start options (surroundings.assets storage.disk) tables draws storage game) 0
    game.scenes (prepare options (surroundings.assets storage.disk) tables draws game).2
  rw [same] at whole
  exact whole

end Build

end GameScenes
