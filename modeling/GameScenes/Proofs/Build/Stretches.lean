import GameScenes.Proofs.Build.Actions
import GameScenes.Proofs.Build.SceneFaults

/-!
# The order of a report's faults

The faults of a report come in three stretches: those of the settings and of the sections, which
have no scene, then those of the actions, and then those of the scenes that were compiled.  The last
two follow the document, and each of their faults has the name of the scene that was being worked on
(`compileGame_stretches`).
-/

set_option autoImplicit false

namespace GameScenes.Build

open Behavior (builtinCommands)
open Document (Game SceneEntry)
open Storage (Disk)

/-! ## Actions -/

/-- The faults of a scene's actions have its name. -/
theorem scene_of_mem_entryFaults {sceneNames : List String} (entry : SceneEntry) :
    ∀ d ∈ entryFaults builtinCommands sceneNames entry, d.scene = some entry.name := by
  intro d member
  cases entry with
  | malformed fault => cases member
  | parsed scene =>
      obtain ⟨element, -, fault⟩ := List.mem_filterMap.mp member
      exact scene_of_actionFault? fault

/-! ## Runs -/

namespace Plan

variable (plan : Plan) (p : Progress) (index : Nat) (entries : List SceneEntry)
  (actions : List (List (Option Scene.ButtonAction)))

/-- The steps of a run follow its scenes. -/
theorem steps_entries : (plan.steps p index entries actions).map (·.entry) <+: entries := by
  induction entries generalizing p index actions with
  | nil => exact List.prefix_rfl
  | cons entry rest ih =>
      rw [steps_cons]
      split
      · exact List.nil_prefix
      · exact (List.prefix_cons_inj entry).mpr (ih _ _ _)

/-- Between two steps no scene is being worked on. -/
theorem steps_outside (outside : p.context.log.scene = none) :
    ∀ step ∈ plan.steps p index entries actions, step.before.context.log.scene = none := by
  induction entries generalizing p index actions with
  | nil => simp [steps]
  | cons entry rest ih =>
      intro step member
      rw [steps_cons] at member
      split at member
      · cases member
      · rcases List.mem_cons.mp member with rfl | later
        · exact outside
        · exact ih _ _ _ (SceneStep.after_log_scene _) step later

end Plan

/-- That a step works on its scene and on no other: it enters the scene and leaves it, and what it
records are faults of features and the errors of the scene, all of them under the scene's name. -/
structure SceneStep.KeepsToScene (step : SceneStep) : Prop where
  entered : step.before.context.log.scene = none
  left : step.after.context.log.scene = none
  named : ∀ d ∈ step.recorded, d.scene = some step.entry.name
  parts : ∃ faults : List Diagnostic, (∀ d ∈ faults, d.OfFeature) ∧
    (step.scene? = none → faults = []) ∧
    step.recorded = faults.map (Diagnostic.under step.entry.name) ++ step.errors

/-- A report lists first the faults without a scene, which are those of layers of the settings
without a slot and one for each fault of a section; then those of the actions of all scenes, and
then those of the scenes that were compiled.  The last two go through the document in order, and
their faults have the names of the scenes that they were found at. -/
theorem compileGame_stretches {options : Options} {surroundings : Surroundings} {draws : Draws}
    {storage : Storage} {raw : String} {report : Report}
    (reported : (compileGame options surroundings draws storage raw).result = .ok report) :
    ∃ game made tables opened, Game.read raw = .ok game ∧
      options.project.makeFolders storage = (.ok (), made) ∧
      options.project.loadTables made = (.ok tables, opened) ∧
      report.diagnostics = generalFaults tables.layers game ++
        (game.scenes.flatMap (entryFaults builtinCommands (sceneNamesOf game.scenes)) ++
          (gameSteps options surroundings draws storage raw).flatMap SceneStep.recorded) ∧
      report.diagnostics.filter (·.scene.isNone) = generalFaults tables.layers game ∧
      (∀ entry ∈ game.scenes,
        ∀ d ∈ entryFaults builtinCommands (sceneNamesOf game.scenes) entry,
          d.scene = some entry.name) ∧
      (gameSteps options surroundings draws storage raw).map (·.entry) <+: game.scenes ∧
      ∀ step ∈ gameSteps options surroundings draws storage raw, step.KeepsToScene := by
  obtain ⟨game, made, tables, opened, read, folders, loaded, run⟩ := opened_of_reported reported
  rw [run] at reported
  rw [gameSteps_of_opened surroundings draws read folders loaded]
  obtain ⟨log, outside⟩ :=
    prepare_log options (surroundings.assets opened.disk) tables draws game
  have parts := compileScenes_diagnostics reported
  rw [log, List.append_assoc] at parts
  refine ⟨game, made, tables, opened, read, folders, loaded, parts, ?_,
    fun entry _ => scene_of_mem_entryFaults entry, Plan.steps_entries _ _ _ _ _, ?_⟩
  · rw [parts, List.filter_append, List.filter_eq_self.mpr, List.filter_eq_nil_iff.mpr,
      List.append_nil]
    · intro d member
      rcases List.mem_append.mp member with action | recorded
      · obtain ⟨entry, -, own⟩ := List.mem_flatMap.mp action
        simp [scene_of_mem_entryFaults entry d own]
      · obtain ⟨step, -, own⟩ := List.mem_flatMap.mp recorded
        simp [step.scene_of_mem_recorded d own]
    · intro d member
      simp [scene_of_mem_generalFaults d member]
  · intro step member
    exact ⟨Plan.steps_outside _ _ _ _ _ outside step member, step.after_log_scene,
      step.scene_of_mem_recorded, step.recorded_eq⟩

/-! A document whose settings and first scene do not decode, and whose second scene has an action
that there is not. -/

def flyText : String :=
  "\x7b\"game\":\x7b\"scenes\":[true,\x7b\"ui\":[\x7b\"onClick\":\x7b\"command\":\"Fly\"" ++
    "\x7d\x7d]\x7d],\"settings\":3\x7d\x7d"

def flyGame : Json :=
  .object
    [("scenes", .array [.bool true, .object
        [("ui", .array [.object [("onClick", .object [("command", .text "Fly")])]])]]),
      ("settings", .number (.int 3))]

theorem canonical_flyGame : flyGame.canonical = flyGame := by
  have sorted : ∀ scenes settings : Json,
      Json.sortMembers [("scenes", scenes), ("settings", settings)] =
        [("scenes", scenes), ("settings", settings)] := by
    intro scenes settings
    have order : (!decide ("settings" < "scenes")) = true := by decide
    have ascending : [("scenes", scenes), ("settings", settings)].Pairwise
        fun a b => (!decide (b.1 < a.1)) = true := List.pairwise_pair.mpr order
    rw [Json.sortMembers, List.mergeSort_of_pairwise ascending]
    rfl
  simp [flyGame, Json.canonical, Json.canonicalItems, Json.canonicalMembers, sorted]
  simp [Json.sortMembers, Json.keepLast]

theorem read_flyText : Game.read flyText = Game.ofJson (.object [("game", flyGame)]) := by
  have whole : Json.readWhole (some Document.maxEntries) flyText.toList =
      .ok (.object [("game", flyGame)]) := by cbv
  have canonical : (Json.object [("game", flyGame)]).canonical = .object [("game", flyGame)] := by
    simp [Json.canonical, Json.canonicalMembers, Json.sortMembers, Json.keepLast,
      canonical_flyGame]
  unfold Game.read
  rw [if_neg (by decide +kernel), Json.readBounded, whole, Except.map, canonical]

/-- The section comes first, then the action of the second scene, and then the first scene. -/
theorem compileGame_stretches_fly :
    ∃ report, (compileGame plainOptions bareSurroundings plainDraws
        (Storage.start Disk.empty [] fun _ => none) flyText).result = .ok report ∧
      report.diagnostics.map (fun d => (d.code, d.scene)) =
        [(.malformedSection, none), (.unknownCommand, some "Scene2"),
          (.sceneAborted, some "<unnamed>")] ∧
      ∃ game layers, Game.read flyText = .ok game ∧
        report.diagnostics = generalFaults layers game ++
          (game.scenes.flatMap (entryFaults builtinCommands (sceneNamesOf game.scenes)) ++
            (gameSteps plainOptions bareSurroundings plainDraws
              (Storage.start Disk.empty [] fun _ => none) flyText).flatMap SceneStep.recorded) := by
  have facts : (compileGame plainOptions bareSurroundings plainDraws
      (Storage.start Disk.empty [] fun _ => none) flyText).result.toOption.any (fun report =>
        report.diagnostics.map (fun d => (d.code, d.scene)) ==
          [(.malformedSection, none), (.unknownCommand, some "Scene2"),
            (.sceneAborted, some "<unnamed>")]) = true := by
    unfold compileGame
    rw [read_flyText]
    decide +kernel
  cases reported : (compileGame plainOptions bareSurroundings plainDraws
      (Storage.start Disk.empty [] fun _ => none) flyText).result with
  | error cause =>
      rw [reported] at facts
      cases facts
  | ok report =>
      rw [reported] at facts
      obtain ⟨game, -, tables, -, read, -, -, parts, -⟩ := compileGame_stretches reported
      exact ⟨report, rfl, by simpa [Except.toOption] using facts, game, tables.layers, read, parts⟩

end GameScenes.Build
