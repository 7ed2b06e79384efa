import GameScenes.Proofs.Build.Beside
import GameScenes.Proofs.Build.Recompiled

/-!
# Settings of games that are compiled again

What a run registers does not depend on the tables that it starts from.  So a second run finds all
its names in the tables which the first run saved with its last scene, and all its scenes in the
list of scenes to build: neither file changes any more (`compileGame_again_settings`).
-/

set_option autoImplicit false

namespace GameScenes.Build

open Document (Game SceneEntry)
open ProjectFolder (Grows Listed Located Prepared TablesHeld Untouched buildListName tablesName)
open Scene (Artifact ButtonAction)

/-! ## Runs without a fault of the disk -/

/-- That no fault of the disk is among some faults. -/
def Quiet (diagnostics : List Diagnostic) : Prop := ∀ d ∈ diagnostics, d.code ≠ .outputFailed

theorem Quiet.of_prefix {xs ys : List Diagnostic} (quiet : Quiet ys) (early : xs <+: ys) :
    Quiet xs := fun d member => quiet d (early.subset member)

namespace Progress

variable (p : Progress) (project : ProjectFolder) (index : Nat) (scene : String)

theorem not_quiet_fault (message : String) : ¬ Quiet
    (p.fault scene (Diagnostic.error .outputFailed message)).context.log.entries.toList := by
  intro quiet
  rw [p.fault_log scene rfl] at quiet
  exact quiet _ (List.mem_append_right _ (List.mem_singleton_self _)) rfl

/-- Where no fault of the disk is recorded, a scene is saved and then the tables. -/
theorem saved_of_quiet (artifact : Artifact)
    (quiet : Quiet (p.keepScene project index scene artifact).context.log.entries.toList) :
    ∃ saved stored, project.saveScene artifact p.storage = (.ok saved, stored) ∧
      (project.saveTables p.context.tables stored).1.isOk = true := by
  rcases p.keepScene_cases project index scene artifact with
    ⟨saved, stored, kept, same⟩ | ⟨cause, stored, failed, same⟩
  · refine ⟨saved, stored, kept, ?_⟩
    rw [same] at quiet
    generalize written : project.saveTables p.context.tables stored = result
    obtain ⟨outcome, finished⟩ := result
    cases outcome with
    | ok done => rfl
    | error cause =>
        simp only [keepTables, written] at quiet
        exact absurd quiet (not_quiet_fault _ _ _)
  · rw [same] at quiet
    have given := advances_abort (Progress.fault { p with storage := stored } scene
      (Diagnostic.error .outputFailed cause.message)) index scene
        ("failed to write scene: " ++ cause.message)
    exact absurd (quiet.of_prefix given.log_prefix) (not_quiet_fault _ _ _)

end Progress

theorem SceneStep.succeeds_of_quiet (step : SceneStep)
    (quiet : Quiet step.after.context.log.entries.toList) : step.succeeds = true := by
  simp only [succeeds]
  cases built : step.scene? with
  | none => rfl
  | some scene =>
      rw [step.after_of_some built] at quiet
      obtain ⟨saved, stored, kept, tables⟩ := Progress.saved_of_quiet _ _ _ _ _ quiet
      dsimp only at kept tables ⊢
      rw [kept]
      exact tables

/-- What a step records stays on record. -/
theorem Plan.log_of_steps (plan : Plan) (p : Progress) (index : Nat) (entries : List SceneEntry)
    (actions : List (List (Option ButtonAction))) :
    ∀ step ∈ plan.steps p index entries actions, step.after.context.log.entries.toList <+:
      (plan.compileEntries p index entries actions).1.context.log.entries.toList := by
  induction entries generalizing p index actions with
  | nil => simp [steps]
  | cons entry rest ih =>
      rcases plan.run_cases p index entry rest actions with ⟨steps, last⟩ | ⟨steps, last⟩
      · simp [steps]
      · rw [steps, last]
        intro step member
        rcases List.mem_cons.mp member with rfl | later
        · obtain ⟨outcomes, run, -⟩ := plan.compileEntries_advances
            (plan.stepAt p index entry actions).after (index + 1) rest actions.tail
          exact run.log_prefix
        · exact ih _ _ _ step later

/-- A run whose report has no fault of the disk saves every scene that it builds and the tables. -/
theorem completes_of_quiet {options : Options} {surroundings : Surroundings} {draws : Draws}
    {storage : Storage} {raw : String} {report : Report}
    (reported : (compileGame options surroundings draws storage raw).result = .ok report)
    (quiet : Quiet report.diagnostics) : Completes options surroundings draws storage raw := by
  refine ⟨⟨report, reported⟩, ?_⟩
  obtain ⟨game, made, tables, opened, read, folders, loaded, whole⟩ := opened_of_reported reported
  rw [whole] at reported
  cases reported
  rw [gameSteps_of_opened surroundings draws read folders loaded, sceneSteps_eq]
  intro step member
  exact step.succeeds_of_quiet (quiet.of_prefix (Plan.log_of_steps _ _ _ _ _ step member))

/-! ## Settings that are held -/

namespace Progress

variable (p : Progress) (project : ProjectFolder) (index : Nat) (scene : String)

/-- Where a scene is listed and the tables are held, keeping the scene leaves the settings alone. -/
theorem keepScene_of_held (artifact : Artifact) (prepared : project.Prepared p.storage)
    (listed : project.Listed p.storage (SceneFile.relativePath artifact.name))
    (held : project.TablesHeld p.storage p.context.tables) :
    project.Untouched p.storage (p.keepScene project index scene artifact).storage ∧
      ∃ new, (p.keepScene project index scene artifact).saved.toList = p.saved.toList ++ new ∧
        ∀ saved ∈ new, saved.addedToBuild = false := by
  obtain ⟨notAdded, untouched⟩ := ProjectFolder.saveScene_of_held prepared listed
  rcases p.keepScene_cases project index scene artifact with
    ⟨saved, stored, kept, same⟩ | ⟨cause, stored, failed, same⟩
  · rw [kept] at notAdded untouched
    rw [same, keepTables_storage, keepTables_saved]
    refine ⟨untouched.trans (ProjectFolder.untouched_saveTables (untouched.tablesHeld held)),
      [saved], Array.toList_push, ?_⟩
    intro other member
    rw [List.mem_singleton.mp member]
    exact notAdded saved rfl
  · rw [failed] at untouched
    rw [same]
    exact ⟨untouched, [], (List.append_nil _).symm, by simp⟩

end Progress

/-- A step over a scene that is listed, with the tables that are held, leaves the settings alone. -/
theorem SceneStep.untouched_of_held (step : SceneStep)
    (prepared : step.plan.project.Prepared step.before.storage)
    (listed : ∀ scene, step.scene? = some scene →
      step.plan.project.Listed step.before.storage (SceneFile.relativePath scene.name))
    (held : ∀ scene, step.scene? = some scene →
      step.plan.project.TablesHeld step.before.storage step.after.context.tables) :
    step.plan.project.Untouched step.before.storage step.after.storage ∧
      ∀ saved ∈ step.saved, saved.addedToBuild = false := by
  cases built : step.scene? with
  | none =>
      obtain ⟨storage, saved, -⟩ := step.after_of_none built
      rw [storage, SceneStep.saved, saved, List.drop_length]
      exact ⟨.refl _, by simp⟩
  | some scene =>
      have tables := held scene built
      rw [(step.context_of_some built).2.1] at tables
      obtain ⟨untouched, new, saved, notAdded⟩ := Progress.keepScene_of_held
        { step.before with
          seen := SceneFile.relativePath scene.name :: step.before.seen
          context := (step.build scene).1 }
        step.plan.project step.index scene.name (step.build scene).2 prepared
        (listed scene built) tables
      rw [← step.after_of_some built] at untouched saved
      rw [SceneStep.saved, saved, List.drop_left]
      exact ⟨untouched, notAdded⟩

namespace Plan

variable {plan : Plan} {p q : Progress}

/-- A run that is repeated over the tables which the first run ended with, and which are held,
leaves the settings alone. -/
theorem untouched_of_beside (steady : plan.surroundings.Steady) (beside : Beside p q) (index : Nat)
    (entries : List SceneEntry) (actions others : List (List (Option ButtonAction)))
    (whole : (plan.compileEntries p index entries actions).2 = false)
    (first : plan.project.Prepared p.storage) (prepared : plan.project.Prepared q.storage)
    (listed : ∀ step ∈ plan.steps p index entries actions, ∀ scene, step.scene? = some scene →
      plan.project.Listed q.storage (SceneFile.relativePath scene.name))
    (reached : q.context.tables = (plan.compileEntries p index entries actions).1.context.tables)
    (held : (∃ step ∈ plan.steps p index entries actions, step.scene? ≠ none) →
      plan.project.TablesHeld q.storage q.context.tables) :
    plan.project.Untouched q.storage (plan.compileEntries q index entries others).1.storage ∧
      ∀ step ∈ plan.steps q index entries others, ∀ saved ∈ step.saved,
        saved.addedToBuild = false := by
  induction entries generalizing p q index actions others with
  | nil => exact ⟨.refl _, by simp [steps]⟩
  | cons entry rest ih =>
      rw [compileEntries_cons] at whole
      by_cases stopped : plan.surroundings.cancelled index p.context.asked = true
      · rw [if_pos stopped] at whole
        cases whole
      rw [if_neg stopped] at whole
      rw [steps_cons, if_neg stopped] at listed held
      rw [compileEntries_cons, if_neg stopped] at reached
      rw [compileEntries_cons, steps_cons]
      split
      · exact ⟨.refl _, by simp⟩
      · have step : Beside (plan.stepAt p index entry actions).before
            (plan.stepAt q index entry others).before := beside
        obtain ⟨names, run⟩ := ledger_compileEntries steady
          (plan.stepAt p index entry actions).after (index + 1) rest actions.tail
        -- the step enters nothing, for the tables hold all that the first run came to
        have together : Together p.context (plan.stepAt p index entry actions).after.context
            q.context (plan.stepAt q index entry others).after.context :=
          SceneStep.together_of_beside (plan.stepAt p index entry actions)
            (plan.stepAt q index entry others) rfl rfl steady step
        have settled : (plan.stepAt q index entry others).after.context.ledger =
            q.context.ledger := together.settled (by rw [← run]; exact reached)
        have tables : (plan.stepAt q index entry others).after.context.tables =
            q.context.tables := congrArg Ledger.tables settled
        have scenes := (SceneStep.scenes_of_beside (plan.stepAt p index entry actions)
          (plan.stepAt q index entry others) rfl step.seen).1
        obtain ⟨untouched, notAdded⟩ := (plan.stepAt q index entry others).untouched_of_held
          prepared
          (by
            intro scene built
            rw [scenes] at built
            exact listed _ (List.mem_cons_self ..) scene built)
          (by
            intro scene built
            rw [scenes] at built
            rw [tables]
            exact held ⟨_, List.mem_cons_self .., by simp [built]⟩)
        have kept := (plan.stepAt p index entry actions).after_keepsImages first
        have behind := SceneStep.after_beside (plan.stepAt p index entry actions)
          (plan.stepAt q index entry others) rfl rfl steady step first prepared
        obtain ⟨later, rests⟩ := ih behind (index + 1) actions.tail others.tail whole (first.mono kept.keepsFolders) (prepared.mono untouched.folders)
          (fun other member scene built => untouched.listed
            (listed other (List.mem_cons_of_mem _ member) scene built))
          (tables.trans reached)
          (by
            rintro ⟨other, member, built⟩
            rw [tables]
            exact untouched.tablesHeld (held ⟨other, List.mem_cons_of_mem _ member, built⟩))
        refine ⟨untouched.trans later, ?_⟩
        intro other member
        rcases List.mem_cons.mp member with rfl | other
        · exact notAdded
        · exact rests _ other

/-- A run that builds no scene does nothing to the disk and saves nothing. -/
theorem storage_of_unbuilt (plan : Plan) (p : Progress) (index : Nat) (entries : List SceneEntry)
    (actions : List (List (Option ButtonAction)))
    (unbuilt : ∀ step ∈ plan.steps p index entries actions, step.scene? = none) :
    (plan.compileEntries p index entries actions).1.storage = p.storage := by
  induction entries generalizing p index actions with
  | nil => rfl
  | cons entry rest ih =>
      rcases plan.run_cases p index entry rest actions with ⟨-, last⟩ | ⟨steps, last⟩
      · rw [last]
      · rw [steps] at unbuilt
        rw [last, ih _ _ _ fun step behind => unbuilt step (List.mem_cons_of_mem _ behind)]
        exact ((plan.stepAt p index entry actions).after_of_none
          (unbuilt _ (List.mem_cons_self ..))).1

/-- On a willing host a run saves every scene that the project can take as it is built. -/
theorem savedArtifact?_of_resavable (plan : Plan) (p : Progress) (index : Nat)
    (entries : List SceneEntry) (actions : List (List (Option ButtonAction)))
    (willing : p.storage.Willing) (prepared : plan.project.Prepared p.storage)
    (resavable : ∀ step ∈ plan.steps p index entries actions, ∀ scene, step.scene? = some scene →
      plan.project.Resavable p.storage scene.name) :
    ∀ step ∈ plan.steps p index entries actions,
      step.savedArtifact? = step.scene?.map fun scene => (step.build scene).2 := by
  induction entries generalizing p index actions with
  | nil => simp [steps]
  | cons entry rest ih =>
      rcases plan.run_cases p index entry rest actions with ⟨steps, -⟩ | ⟨steps, -⟩
      · simp [steps]
      · rw [steps] at resavable ⊢
        obtain ⟨saved, grows⟩ := (plan.stepAt p index entry actions).savedArtifact?_of_resavable
          willing prepared (resavable _ (List.mem_cons_self ..))
        intro step member
        rcases List.mem_cons.mp member with rfl | behind
        · exact saved
        · exact ih _ _ _ (grows.willing willing) (prepared.mono grows.keepsFolders)
            (fun other later scene built =>
              (resavable other (List.mem_cons_of_mem _ later) scene built).mono grows) step behind

end Plan

/-- The names of the artifacts of steps that save what they build. -/
theorem names_of_built {steps : List SceneStep}
    (saved : ∀ step ∈ steps,
      step.savedArtifact? = step.scene?.map fun scene => (step.build scene).2) :
    (savedArtifacts steps).map (·.name) =
      ((steps.map SceneStep.scene?).filterMap id).map (·.name) := by
  rw [List.filterMap_map, savedArtifacts, List.map_filterMap, List.map_filterMap]
  apply List.filterMap_congr
  intro step member
  rw [saved step member, Function.comp_apply, id]
  cases step.scene? with
  | none => rfl
  | some scene => exact congrArg some (compileScene_name ..)

/-! ## Games -/

/-- The project that a run leaves behind, on a host with these refusals. -/
def Outcome.reopenedOn (outcome : Outcome) (refusals : Nat → Option Storage.Refusal) : Storage :=
  Storage.start outcome.storage.disk outcome.storage.working refusals

/-- That a run leaves the settings of its project alone and adds no scene to the list of scenes to
build. -/
structure Outcome.Settled (outcome : Outcome) (project : ProjectFolder) (before : Storage) :
    Prop where
  untouched : project.Untouched before outcome.storage
  notAdded : ∀ saved ∈ outcome.saved, saved.addedToBuild = false

/-- A run that begins after something which leaves the settings alone. -/
theorem Outcome.Settled.mono {outcome : Outcome} {project : ProjectFolder}
    {before opened : Storage} (untouched : project.Untouched before opened)
    (settled : outcome.Settled project opened) : outcome.Settled project before :=
  ⟨untouched.trans settled.untouched, settled.notAdded⟩

section Again

variable (options : Options) {surroundings : Surroundings} (draws again : Draws)

theorem compileScenes_saved (surroundings : Surroundings) (digest : String) (tables : Tables)
    (storage : Storage) (game : Game) :
    (compileScenes options surroundings digest tables draws storage game).saved =
      (sceneSteps options surroundings digest tables draws storage game).flatMap SceneStep.saved :=
  compileScenes_adds Report.saved (fun p => p.saved.toList) SceneStep.saved SceneStep.after_saved
    (fun _ _ => rfl) (fun _ _ _ => rfl) options surroundings digest tables draws storage game

/-- A run without scenes to build leaves the settings alone. -/
theorem settled_of_unbuilt {digest : String} {tables : Tables} {storage : Storage} {game : Game}
    (unbuilt : ∀ step ∈ sceneSteps options surroundings digest tables draws storage game,
      step.scene? = none) :
    (compileScenes options surroundings digest tables draws storage game).Settled options.project
      storage where
  untouched := by
    rw [compileScenes_storage]
    rw [sceneSteps_eq] at unbuilt
    rw [Plan.storage_of_unbuilt _ _ _ _ _ unbuilt]
    exact .refl storage
  notAdded := by
    rw [compileScenes_saved]
    intro saved member
    obtain ⟨step, taken, own⟩ := List.mem_flatMap.mp member
    rw [SceneStep.saved, (step.after_of_none (unbuilt step taken)).2.1, List.drop_length] at own
    cases own

/-- How far the scenes of a game are compiled, and whether this was cancelled. -/
def scenesRun (surroundings : Surroundings) (digest : String) (tables : Tables)
    (storage : Storage) (game : Game) : Progress × Bool :=
  (Plan.ofGame options surroundings digest game).compileEntries
    (Progress.start options (surroundings.assets storage.disk) tables draws storage game) 0
    game.scenes (prepare options (surroundings.assets storage.disk) tables draws game).2

theorem compileScenes_reported (surroundings : Surroundings) (digest : String) (tables : Tables)
    (storage : Storage) (game : Game) :
    ∃ report, (compileScenes options surroundings digest tables draws storage game).result =
        .ok report ∧
      report.cancelled = (scenesRun options draws surroundings digest tables storage game).2 :=
  ⟨_, rfl, rfl⟩

/-- What a run without a fault of the disk leaves in its project: the images that it found, all
scenes that it built on the list, and its tables as soon as there is such a scene. -/
structure Leaves (surroundings : Surroundings) (digest : String) (tables : Tables)
    (opened : Storage) (game : Game) (left : Storage) : Prop where
  started : options.project.Prepared opened
  prepared : options.project.Prepared left
  images : opened.disk.SameImages left.disk
  resavable : ∀ step ∈ sceneSteps options surroundings digest tables draws opened game, ∀ scene,
    step.scene? = some scene → options.project.Resavable left scene.name
  held : (∃ step ∈ sceneSteps options surroundings digest tables draws opened game,
      step.scene? ≠ none) →
    options.project.TablesHeld left
      (scenesRun options draws surroundings digest tables opened game).1.context.tables
  idle : (∀ step ∈ sceneSteps options surroundings digest tables draws opened game,
      step.scene? = none) → left = opened

theorem leaves_of_succeeds {digest : String} {tables : Tables} {storage : Storage} {game : Game}
    (prepared : options.project.Prepared storage)
    (located : options.project.Located storage tablesName)
    (success : ∀ step ∈ sceneSteps options surroundings digest tables draws storage game,
      step.succeeds = true) :
    Leaves options draws surroundings digest tables storage game
      (compileScenes options surroundings digest tables draws storage game).storage := by
  rw [compileScenes_storage]
  rw [sceneSteps_eq] at success
  obtain ⟨grows, resavable, kept⟩ := Plan.compileEntries_of_succeeds _ _ _ _ _ success
    prepared located
  have images := (Plan.ofGame options surroundings digest game).keepsImages_compileEntries
    (Progress.start options (surroundings.assets storage.disk) tables draws storage game) 0
    game.scenes (prepare options (surroundings.assets storage.disk) tables draws game).2 prepared
  refine ⟨prepared, prepared.mono grows.keepsFolders, images.images, ?_, ?_, ?_⟩
  · rw [sceneSteps_eq]
    exact resavable
  · rw [sceneSteps_eq]
    exact fun built => kept (.inr built)
  · rw [sceneSteps_eq]
    exact Plan.storage_of_unbuilt _ _ _ _ _

/-- A run over the tables that the first run ended with leaves the settings alone. -/
theorem settled_of_held (steady : surroundings.Steady) {digest : String} {tables left : Tables}
    {storage opened : Storage} {game : Game}
    (whole : (scenesRun options draws surroundings digest tables storage game).2 = false)
    (reached : left =
      (scenesRun options draws surroundings digest tables storage game).1.context.tables)
    (first : options.project.Prepared storage) (prepared : options.project.Prepared opened)
    (images : storage.disk.SameImages opened.disk)
    (listed : ∀ step ∈ sceneSteps options surroundings digest tables draws storage game,
      ∀ scene, step.scene? = some scene →
        options.project.Listed opened (SceneFile.relativePath scene.name))
    (held : options.project.TablesHeld opened left) :
    (compileScenes options surroundings digest left again opened game).Settled options.project
      opened := by
  obtain ⟨names, run⟩ := (Plan.ofGame options surroundings digest game).ledger_compileEntries steady
    (Progress.start options (surroundings.assets storage.disk) tables draws storage game) 0
    game.scenes (prepare options (surroundings.assets storage.disk) tables draws game).2
  have start : (Progress.start options (surroundings.assets storage.disk) tables draws storage
      game).context.ledger = (Ledger.mk tables draws).enterAll (settingsEntries game.settings) :=
    ledger_prepare ..
  rw [start, ← Ledger.enterAll_append] at run
  have ended : left = ((Ledger.mk tables draws).enterAll
      (settingsEntries game.settings ++ names)).tables :=
    reached.trans (congrArg Ledger.tables run)
  -- the settings of the document enter nothing into the tables that the first run ended with
  have settled : (Progress.start options (surroundings.assets opened.disk) left again opened
      game).context.ledger = ⟨left, again⟩ := by
    refine (ledger_prepare ..).trans (Ledger.enterAll_of_absorbs ?_)
    intro entry member
    show left.Absorbs entry
    rw [ended]
    exact Ledger.absorbs_enterAll _ (List.mem_append_left _ member)
  have kept : (Progress.start options (surroundings.assets opened.disk) left again opened
      game).context.tables = left := congrArg Ledger.tables settled
  rw [sceneSteps_eq] at listed
  obtain ⟨untouched, notAdded⟩ := Plan.untouched_of_beside steady
    (Progress.beside_start options steady tables left draws again game images) 0 game.scenes
    (prepare options (surroundings.assets storage.disk) tables draws game).2
    (prepare options (surroundings.assets opened.disk) left again game).2 whole first prepared
    listed (kept.trans reached) (fun _ => by rw [kept]; exact held)
  constructor
  · rw [compileScenes_storage]
    exact untouched
  · rw [compileScenes_saved, sceneSteps_eq]
    intro saved member
    obtain ⟨step, taken, own⟩ := List.mem_flatMap.mp member
    exact notAdded step taken saved own

/-- What the tables are loaded as, if they are loaded, where they are held. -/
theorem eq_of_tablesHeld {project : ProjectFolder} {storage opened : Storage}
    {tables left : Tables} (prepared : project.Prepared storage)
    (held : project.TablesHeld storage left)
    (loaded : project.loadTables storage = (.ok tables, opened)) : tables = left := by
  rcases (ProjectFolder.load_eq_ok prepared (by decide) loaded).2 with
    ⟨text, file, read⟩ | ⟨missing, -⟩
  · rw [held.file, Option.some.injEq] at file
    rw [← Storage.toUTF8_inj file, Tables.reader_fileText left] at read
    exact (Except.ok.inj read).symm
  · rw [held.file] at missing
    cases missing

/-- A run that cannot load the tables leaves the settings alone. -/
theorem settled_of_unloaded {storage opened : Storage} {raw : String} {game : Game}
    {cause : OutputFault} (read : Game.read raw = .ok game)
    (folders : options.project.makeFolders storage = (.ok (), storage))
    (failed : options.project.loadTables storage = (.error cause, opened)) :
    (compileGame options surroundings draws storage raw).Settled options.project storage := by
  have untouched : options.project.Untouched storage (options.project.loadTables storage).2 :=
    ProjectFolder.untouched_load ..
  rw [failed] at untouched
  have ended : compileGame options surroundings draws storage raw =
      ⟨.error (.output cause), opened, draws, []⟩ := by
    simp only [compileGame, read, folders, failed]
  rw [ended]
  exact ⟨untouched, by simp [Outcome.saved, Outcome.listed]⟩

/-- On a willing host the tables are loaded from what a run without a fault of the disk left
behind. -/
theorem loaded_of_leaves {digest : String} {tables : Tables} {made opened : Storage} {game : Game}
    {first : Outcome} (loaded : options.project.loadTables made = (.ok tables, opened))
    (leaves : Leaves options draws surroundings digest tables opened game first.storage)
    {refusals : Nat → Option Storage.Refusal} (willing : (first.reopenedOn refusals).Willing) :
    ∃ others, (options.project.loadTables (first.reopenedOn refusals)).1 = .ok others := by
  by_cases built : ∃ step ∈ sceneSteps options surroundings digest tables draws opened game,
      step.scene? ≠ none
  · exact ⟨_, ProjectFolder.loadTables_of_tablesHeld willing ((leaves.held built).start _)⟩
  · have same := leaves.idle (by simpa using built)
    have disks : (options.project.loadTables made).2.disk = made.disk :=
      ProjectFolder.load_disk ..
    have working := (ProjectFolder.grows_loadTables loaded).working
    rw [loaded] at disks
    have found : (options.project.loadTables made).1 = .ok tables := by rw [loaded]
    refine ⟨tables, ProjectFolder.load_again found willing.allows ?_ ?_⟩
    · show first.storage.disk = made.disk
      rw [same]
      exact disks
    · show first.storage.working = made.working
      rw [same]
      exact working

/-- The scenes that a run of the game comes to are the first ones of a run that is not cancelled. -/
theorem scenes_prefix_of_whole {digest : String} {tables others : Tables}
    {storage opened : Storage} {game : Game}
    (whole : (scenesRun options draws surroundings digest tables storage game).2 = false) :
    (sceneSteps options surroundings digest others again opened game).map SceneStep.scene? <+:
      (sceneSteps options surroundings digest tables draws storage game).map SceneStep.scene? := by
  rw [sceneSteps_eq, sceneSteps_eq]
  have seen : (Progress.start options (surroundings.assets opened.disk) others again opened
      game).seen = (Progress.start options (surroundings.assets storage.disk) tables draws storage
        game).seen := rfl
  exact Plan.scenes_of_whole seen 0 game.scenes _ _ whole

/-- A run that is not cancelled comes to every scene that another run of the game comes to. -/
theorem scene_of_whole {digest : String} {tables others : Tables} {storage opened : Storage}
    {game : Game}
    (whole : (scenesRun options draws surroundings digest tables storage game).2 = false)
    {step : SceneStep}
    (member : step ∈ sceneSteps options surroundings digest others again opened game) :
    ∃ other ∈ sceneSteps options surroundings digest tables draws storage game,
      other.scene? = step.scene? :=
  List.mem_map.mp ((scenes_prefix_of_whole options draws again whole).subset
    (List.mem_map_of_mem member))

/-- A run that is repeated where a whole run without a fault of the disk left its project leaves the
settings alone. -/
theorem settled_of_leaves (steady : surroundings.Steady) {raw : String} {tables : Tables}
    {opened : Storage} {game : Game} {first : Outcome} (read : Game.read raw = .ok game)
    (whole : (scenesRun options draws surroundings (Sha256.hexDigest raw) tables opened game).2 =
      false)
    (leaves : Leaves options draws surroundings (Sha256.hexDigest raw) tables opened game
      first.storage) (refusals : Nat → Option Storage.Refusal) :
    (compileGame options surroundings again (first.reopenedOn refusals) raw).Settled options.project
      (first.reopenedOn refusals) := by
  have prepared : options.project.Prepared (first.reopenedOn refusals) := leaves.prepared.start _
  have folders := ProjectFolder.makeFolders_of_prepared prepared
  have untouched : options.project.Untouched (first.reopenedOn refusals)
    (options.project.loadTables (first.reopenedOn refusals)).2 := ProjectFolder.untouched_load ..
  have disk : (options.project.loadTables (first.reopenedOn refusals)).2.disk =
    first.storage.disk := ProjectFolder.load_disk ..
  generalize found : options.project.loadTables (first.reopenedOn refusals) = result
    at untouched disk
  obtain ⟨outcome, ready⟩ := result
  cases outcome with
  | error cause => exact settled_of_unloaded options again read folders found
  | ok others =>
      rw [compileGame_of_opened _ _ read folders found]
      apply Outcome.Settled.mono untouched
      by_cases built : ∃ step ∈ sceneSteps options surroundings (Sha256.hexDigest raw) tables draws
          opened game, step.scene? ≠ none
      · have held : options.project.TablesHeld (first.reopenedOn refusals) _ :=
          (leaves.held built).start refusals
        have images := leaves.images
        rw [← disk] at images
        rw [eq_of_tablesHeld prepared held found]
        exact settled_of_held options draws again steady whole rfl leaves.started
          (prepared.mono untouched.folders) images
          (fun step member scene present => untouched.listed
            ((leaves.resavable step member scene present).start refusals).listed)
          (untouched.tablesHeld held)
      · have unbuilt : ∀ step ∈ sceneSteps options surroundings (Sha256.hexDigest raw) tables draws
            opened game, step.scene? = none := by simpa using built
        apply settled_of_unbuilt options again
        intro step member
        obtain ⟨other, taken, same⟩ := scene_of_whole options draws again whole member
        rw [← same]
        exact unbuilt other taken

/-- On a willing host a whole run saves the same scenes as the whole run before it. -/
theorem names_of_whole {digest : String} {tables others : Tables} {storage opened : Storage}
    {game : Game}
    (first : (scenesRun options draws surroundings digest tables storage game).2 = false)
    (second : (scenesRun options again surroundings digest others opened game).2 = false)
    (success : ∀ step ∈ sceneSteps options surroundings digest tables draws storage game,
      step.succeeds = true)
    (willing : opened.Willing) (prepared : options.project.Prepared opened)
    (resavable : ∀ step ∈ sceneSteps options surroundings digest tables draws storage game,
      ∀ scene, step.scene? = some scene → options.project.Resavable opened scene.name) :
    (savedArtifacts (sceneSteps options surroundings digest others again opened game)).map
        (·.name) =
      (savedArtifacts (sceneSteps options surroundings digest tables draws storage game)).map
        (·.name) := by
  have scenes : (sceneSteps options surroundings digest others again opened game).map
      SceneStep.scene? = (sceneSteps options surroundings digest tables draws storage game).map
        SceneStep.scene? :=
    let early := scenes_prefix_of_whole options draws again first
    early.eq_of_length (Nat.le_antisymm early.length_le
      (scenes_prefix_of_whole options again draws second).length_le)
  rw [names_of_built, names_of_built, scenes]
  · exact fun step member => step.savedArtifact?_of_succeeds (success step member)
  · rw [sceneSteps_eq]
    refine Plan.savedArtifact?_of_resavable _ _ _ _ _ willing prepared ?_
    rw [← sceneSteps_eq]
    intro step member scene built
    obtain ⟨other, taken, same⟩ := scene_of_whole options draws again first member
    exact resavable other taken scene (same.trans built)

/-- On a willing host a run comes to its end where a whole run without a fault of the disk left its
project, and a whole run saves the same scenes. -/
theorem names_of_leaves {raw : String} {tables : Tables} {made opened : Storage} {game : Game}
    {first : Outcome} (read : Game.read raw = .ok game)
    (loaded : options.project.loadTables made = (.ok tables, opened))
    (whole : (scenesRun options draws surroundings (Sha256.hexDigest raw) tables opened game).2 =
      false)
    (success : ∀ step ∈ sceneSteps options surroundings (Sha256.hexDigest raw) tables draws opened
      game, step.succeeds = true)
    (leaves : Leaves options draws surroundings (Sha256.hexDigest raw) tables opened game
      first.storage)
    {refusals : Nat → Option Storage.Refusal} (willing : (first.reopenedOn refusals).Willing) :
    ∃ last, (compileGame options surroundings again (first.reopenedOn refusals) raw).result =
        .ok last ∧
      (last.cancelled = false → last.saved.map (·.name) =
        (savedArtifacts (sceneSteps options surroundings (Sha256.hexDigest raw) tables draws opened
          game)).map (·.name)) := by
  obtain ⟨others, found⟩ := loaded_of_leaves options draws loaded leaves willing
  have prepared : options.project.Prepared (first.reopenedOn refusals) := leaves.prepared.start _
  have folders := ProjectFolder.makeFolders_of_prepared prepared
  generalize reloaded : options.project.loadTables (first.reopenedOn refusals) = result at found
  obtain ⟨outcome, ready⟩ := result
  cases found
  have opens := ProjectFolder.grows_loadTables reloaded
  have ran := compileGame_of_opened surroundings again read folders reloaded
  have names := names_of_savedArtifacts options surroundings again (first.reopenedOn refusals) raw
  rw [gameSteps_of_opened surroundings again read folders reloaded] at names
  obtain ⟨last, reported, cancelled⟩ := compileScenes_reported options again surroundings
    (Sha256.hexDigest raw) others ready game
  rw [← ran] at reported
  refine ⟨last, reported, fun complete => ?_⟩
  rw [Outcome.saved, Outcome.listed, reported] at names
  refine names.trans (names_of_whole options draws again whole (cancelled.symm.trans complete)
    success (opens.willing willing) (prepared.mono opens.keepsFolders) ?_)
  exact fun step member scene built =>
    ((leaves.resavable step member scene built).start refusals).mono opens

/-- A game that is compiled again, in the project which a whole run without a fault of the disk left
behind, leaves the files of the settings with the bytes that they have and adds no scene to the list
of scenes to build, on any host.  A host that refuses nothing lets it save the same scenes again. -/
theorem compileGame_again_settings (steady : surroundings.Steady) {storage : Storage} {raw : String}
    {first : Outcome} {report : Report} (here : storage.disk.get? storage.working = some .folder)
    (ran : compileGame options surroundings draws storage raw = first)
    (reported : first.result = .ok report) (uncancelled : report.cancelled = false)
    (quiet : Quiet report.diagnostics) (refusals : Nat → Option Storage.Refusal) :
    (compileGame options surroundings again (first.reopenedOn refusals) raw).Settled
        options.project (first.reopenedOn refusals) ∧
      ((∀ n, refusals n = none) → ∃ last,
        (compileGame options surroundings again (first.reopenedOn refusals) raw).result =
            .ok last ∧
          (last.cancelled = false → last.saved.map (·.name) = report.saved.map (·.name))) := by
  subst ran
  have success := (completes_of_quiet reported quiet).saved
  have names := names_of_savedArtifacts options surroundings draws storage raw
  obtain ⟨game, made, tables, opened, read, folders, loaded, same⟩ := opened_of_reported reported
  rw [gameSteps_of_opened surroundings draws read folders loaded] at success names
  have prepared := ProjectFolder.prepared_of_makeFolders here folders
  have opens := ProjectFolder.grows_loadTables loaded
  obtain ⟨located, -⟩ := ProjectFolder.load_eq_ok prepared (by decide) loaded
  have leaves := leaves_of_succeeds options draws (prepared.mono opens.keepsFolders)
    (located.mono opens.keepsFolders) success
  rw [← same] at leaves
  obtain ⟨others, known, whole⟩ := compileScenes_reported options draws surroundings
    (Sha256.hexDigest raw) tables opened game
  rw [← same, reported] at known
  cases known
  rw [uncancelled] at whole
  generalize compileGame options surroundings draws storage raw = first at *
  refine ⟨settled_of_leaves options draws again steady read whole.symm leaves refusals, ?_⟩
  intro willing
  rw [Outcome.saved, Outcome.listed, reported] at names
  dsimp only at names
  rw [names]
  exact names_of_leaves options draws again read loaded whole.symm success leaves willing

end Again

/-- A scene that was saved is saved again, and is listed already. -/
theorem compileGame_again_settings_lone_scene :
    ∃ report, (compileGame plainOptions bareSurroundings plainDraws bareStorage
        loneSceneText).result = .ok report ∧ Quiet report.diagnostics ∧
      report.cancelled = false ∧ report.saved.length = 1 ∧
      (compileGame plainOptions bareSurroundings plainDraws
        ((compileGame plainOptions bareSurroundings plainDraws bareStorage
          loneSceneText).reopenedOn fun _ => none) loneSceneText).Settled plainOptions.project
            ((compileGame plainOptions bareSurroundings plainDraws bareStorage
              loneSceneText).reopenedOn fun _ => none) := by
  have checks : (compileGame plainOptions bareSurroundings plainDraws bareStorage
      loneSceneText).result.toOption.any (fun report =>
        report.saved.length == 1 && report.cancelled == false &&
          report.diagnostics.all (·.code != .outputFailed)) = true := by
    decide +kernel
  have steady : bareSurroundings.Steady := Surroundings.steady_of_fixed _ _
  cases reported : (compileGame plainOptions bareSurroundings plainDraws bareStorage
      loneSceneText).result with
  | error cause =>
      rw [reported] at checks
      cases checks
  | ok report =>
      rw [reported] at checks
      simp only [Except.toOption, Option.any_some, Bool.and_eq_true, beq_iff_eq,
        List.all_eq_true, bne_iff_ne] at checks
      obtain ⟨⟨one, uncancelled⟩, quiet⟩ := checks
      exact ⟨report, rfl, quiet, uncancelled, one, (compileGame_again_settings plainOptions
        plainDraws plainDraws steady rfl rfl reported uncancelled quiet _).1⟩

end GameScenes.Build
