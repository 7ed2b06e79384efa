import GameScenes.Build.Game

/-!
# The steps of a run

A run goes from scene to scene.  Each of its steps either gives a scene up, and then adds it to the
aborted scenes, or saves it, and then adds it to the saved ones; the report of the run lists what
its steps add, in their order.
-/

set_option autoImplicit false

namespace GameScenes.Build

open Document (Game SceneEntry)
open Scene (Artifact ButtonAction)

/-- A scene that a run comes to, and how far the run has come before it. -/
structure SceneStep where
  plan : Plan
  index : Nat
  entry : SceneEntry
  actions : List (Option ButtonAction)
  before : Progress

namespace SceneStep

def after (step : SceneStep) : Progress :=
  step.plan.compileEntry step.before step.index step.entry step.actions

/-- The scene that is built, unless it is malformed or an earlier scene has its file. -/
def scene? (step : SceneStep) : Option Document.Scene :=
  match step.entry with
  | .malformed _ => none
  | .parsed scene =>
      if step.before.seen.contains (SceneFile.relativePath scene.name) then none else some scene

def build (step : SceneStep) (scene : Document.Scene) : Context × Artifact :=
  compileScene
    { step.before.context with
      assets := step.plan.surroundings.assets step.before.storage.disk }
    scene step.plan.tilesets step.actions step.plan.provenance

/-- The aborted scenes that a step adds to those of the run. -/
def aborted (step : SceneStep) : List AbortedScene :=
  step.after.aborted.toList.drop step.before.aborted.toList.length

/-- The saved scenes that a step adds to those of the run. -/
def saved (step : SceneStep) : List SavedScene :=
  step.after.saved.toList.drop step.before.saved.toList.length

end SceneStep

theorem compileScene_name (context : Context) (scene : Document.Scene)
    (tilesets : List Document.Tileset) (actions : List (Option ButtonAction))
    (provenance : Provenance) :
    (compileScene context scene tilesets actions provenance).2.name = scene.name := rfl

/-! ## Giving up and keeping -/

namespace Progress

variable (p : Progress) (project : ProjectFolder) (index : Nat) (scene reason : String)

@[simp] theorem fault_storage (d : Diagnostic) : (p.fault scene d).storage = p.storage := rfl

@[simp] theorem fault_saved (d : Diagnostic) : (p.fault scene d).saved = p.saved := rfl

@[simp] theorem fault_aborted (d : Diagnostic) : (p.fault scene d).aborted = p.aborted := rfl

@[simp] theorem fault_seen (d : Diagnostic) : (p.fault scene d).seen = p.seen := rfl

@[simp] theorem abort_storage : (p.abort index scene reason).storage = p.storage := rfl

@[simp] theorem abort_saved : (p.abort index scene reason).saved = p.saved := rfl

@[simp] theorem abort_seen : (p.abort index scene reason).seen = p.seen := rfl

@[simp] theorem abort_aborted :
    (p.abort index scene reason).aborted = p.aborted.push ⟨index, scene, reason⟩ := rfl

theorem keepTables_storage :
    (p.keepTables project scene).storage = (project.saveTables p.context.tables p.storage).2 := by
  unfold keepTables
  split
  next stored => rw [stored]
  next stored => rw [stored]; rfl

@[simp] theorem keepTables_saved : (p.keepTables project scene).saved = p.saved := by
  unfold keepTables
  split <;> rfl

@[simp] theorem keepTables_aborted : (p.keepTables project scene).aborted = p.aborted := by
  unfold keepTables
  split <;> rfl

@[simp] theorem keepTables_seen : (p.keepTables project scene).seen = p.seen := by
  unfold keepTables
  split <;> rfl

/-- Keeping a scene saves it or gives it up; the disk is left as saving it left it, apart from the
tables. -/
theorem keepScene_cases (artifact : Artifact) :
    (∃ saved storage, project.saveScene artifact p.storage = (.ok saved, storage) ∧
      p.keepScene project index scene artifact =
        { p with storage, saved := p.saved.push saved }.keepTables project scene) ∨
    (∃ cause storage, project.saveScene artifact p.storage = (.error cause, storage) ∧
      p.keepScene project index scene artifact =
        ({ p with storage }.fault scene
          (Diagnostic.error .outputFailed cause.message)).abort index scene
            ("failed to write scene: " ++ cause.message)) := by
  unfold keepScene
  split
  next saved storage kept => exact .inl ⟨saved, storage, kept, rfl⟩
  next cause storage failed => exact .inr ⟨cause, storage, failed, rfl⟩

end Progress

namespace SceneStep

/-- A scene that is not built is given up without anything being done to the disk. -/
theorem after_of_none (step : SceneStep) (unbuilt : step.scene? = none) :
    step.after.storage = step.before.storage ∧ step.after.saved = step.before.saved ∧
      ∃ name reason, step.after.aborted = step.before.aborted.push ⟨step.index, name, reason⟩ := by
  unfold scene? at unbuilt
  unfold after Plan.compileEntry
  cases entry : step.entry with
  | malformed fault =>
      dsimp only
      exact ⟨Progress.abort_storage .., Progress.abort_saved .., _, _, Progress.abort_aborted ..⟩
  | parsed scene =>
      rw [entry] at unbuilt
      dsimp only at unbuilt ⊢
      split at unbuilt
      next seen =>
        rw [if_pos seen]
        exact ⟨Progress.abort_storage .., Progress.abort_saved .., _, _,
          Progress.abort_aborted ..⟩
      · simp at unbuilt

/-- A scene that is built is kept as it was built. -/
theorem after_of_some (step : SceneStep) {scene : Document.Scene}
    (built : step.scene? = some scene) :
    step.after =
      { step.before with
        seen := SceneFile.relativePath scene.name :: step.before.seen
        context := (step.build scene).1 }.keepScene step.plan.project step.index scene.name
          (step.build scene).2 := by
  unfold scene? at built
  unfold after Plan.compileEntry
  cases entry : step.entry with
  | malformed fault => simp [entry] at built
  | parsed spec =>
      rw [entry] at built
      dsimp only at built ⊢
      split at built
      · simp at built
      next fresh =>
        cases built
        rw [if_neg fresh]
        rfl

/-- A step adds a scene to the aborted ones or to the saved ones. -/
theorem after_lists (step : SceneStep) :
    (∃ gone, step.after.aborted = step.before.aborted.push gone ∧
      step.after.saved = step.before.saved) ∨
    (∃ kept, step.after.saved = step.before.saved.push kept ∧
      step.after.aborted = step.before.aborted) := by
  cases built : step.scene? with
  | none =>
      obtain ⟨-, saved, name, reason, aborted⟩ := step.after_of_none built
      exact .inl ⟨_, aborted, saved⟩
  | some scene =>
      rw [step.after_of_some built]
      rcases Progress.keepScene_cases _ step.plan.project step.index scene.name
        (step.build scene).2 with ⟨saved, storage, -, same⟩ | ⟨cause, storage, -, same⟩
      · rw [same]
        exact .inr ⟨saved, by simp, by simp⟩
      · rw [same]
        exact .inl ⟨_, rfl, rfl⟩

theorem after_aborted (step : SceneStep) :
    step.after.aborted.toList = step.before.aborted.toList ++ step.aborted := by
  unfold aborted
  rcases step.after_lists with ⟨gone, pushed, -⟩ | ⟨kept, -, same⟩
  · simp [pushed]
  · simp [same]

theorem after_saved (step : SceneStep) :
    step.after.saved.toList = step.before.saved.toList ++ step.saved := by
  unfold saved
  rcases step.after_lists with ⟨gone, -, same⟩ | ⟨kept, pushed, -⟩
  · simp [same]
  · simp [pushed]

end SceneStep

/-! ## Runs -/

namespace Plan

/-- The steps of a run over scenes from a position on. -/
def steps (plan : Plan) :
    Progress → Nat → List SceneEntry → List (List (Option ButtonAction)) → List SceneStep
  | _, _, [], _ => []
  | p, index, entry :: rest, actions =>
      if plan.surroundings.cancelled index p.context.asked then []
      else
        let step : SceneStep := ⟨plan, index, entry, actions.head?.getD [], p⟩
        step :: plan.steps step.after (index + 1) rest actions.tail

/-- The step at the first of the scenes that are left. -/
def stepAt (plan : Plan) (p : Progress) (index : Nat) (entry : SceneEntry)
    (actions : List (List (Option ButtonAction))) : SceneStep :=
  ⟨plan, index, entry, actions.head?.getD [], p⟩

theorem steps_cons (plan : Plan) (p : Progress) (index : Nat) (entry : SceneEntry)
    (rest : List SceneEntry) (actions : List (List (Option ButtonAction))) :
    plan.steps p index (entry :: rest) actions =
      if plan.surroundings.cancelled index p.context.asked then []
      else plan.stepAt p index entry actions ::
        plan.steps (plan.stepAt p index entry actions).after (index + 1) rest actions.tail := rfl

theorem compileEntries_cons (plan : Plan) (p : Progress) (index : Nat) (entry : SceneEntry)
    (rest : List SceneEntry) (actions : List (List (Option ButtonAction))) :
    plan.compileEntries p index (entry :: rest) actions =
      if plan.surroundings.cancelled index p.context.asked then (p, true)
      else plan.compileEntries (plan.stepAt p index entry actions).after (index + 1) rest
        actions.tail := rfl

/-- A run over some scenes ends before the first of them, or it goes on after its step. -/
theorem run_cases (plan : Plan) (p : Progress) (index : Nat) (entry : SceneEntry)
    (rest : List SceneEntry) (actions : List (List (Option ButtonAction))) :
    (plan.steps p index (entry :: rest) actions = [] ∧
      (plan.compileEntries p index (entry :: rest) actions).1 = p) ∨
    (plan.steps p index (entry :: rest) actions =
        plan.stepAt p index entry actions ::
          plan.steps (plan.stepAt p index entry actions).after (index + 1) rest actions.tail ∧
      (plan.compileEntries p index (entry :: rest) actions).1 =
        (plan.compileEntries (plan.stepAt p index entry actions).after (index + 1) rest
          actions.tail).1) := by
  rw [steps_cons, compileEntries_cons]
  split
  · exact .inl ⟨rfl, rfl⟩
  · exact .inr ⟨rfl, rfl⟩

/-- What every step adds to a list is what the run adds to it. -/
theorem compileEntries_adds {α : Type} (listed : Progress → List α) (added : SceneStep → List α)
    (grows : ∀ step : SceneStep, listed step.after = listed step.before ++ added step)
    (plan : Plan) (p : Progress) (index : Nat) (entries : List SceneEntry)
    (actions : List (List (Option ButtonAction))) :
    listed (plan.compileEntries p index entries actions).1 =
      listed p ++ (plan.steps p index entries actions).flatMap added := by
  induction entries generalizing p index actions with
  | nil => simp [compileEntries, steps]
  | cons entry rest ih =>
      unfold compileEntries steps
      split
      · simp
      · have now := grows ⟨plan, index, entry, actions.head?.getD [], p⟩
        rw [List.flatMap_cons, ← List.append_assoc, ← now]
        exact ih _ _ _

end Plan

/-- What all scenes of the run of a game have in common. -/
def Plan.ofGame (options : Options) (surroundings : Surroundings) (digest : String)
    (game : Game) : Plan :=
  { project := options.project, surroundings, tilesets := game.tilesets
    provenance := ⟨options.compilerVersion, digest⟩ }

/-- The steps of the run of a game whose project has these tables. -/
def sceneSteps (options : Options) (surroundings : Surroundings) (digest : String)
    (tables : Tables) (draws : Draws) (storage : Storage) (game : Game) : List SceneStep :=
  let (context, actions) :=
    prepare options (surroundings.assets storage.disk) tables draws game
  (Plan.ofGame options surroundings digest game).steps ⟨context, storage, [], #[], #[]⟩ 0
    game.scenes actions

/-- A run before its first scene. -/
def Progress.start (options : Options) (assets : AssetStore) (tables : Tables) (draws : Draws)
    (storage : Storage) (game : Game) : Progress :=
  ⟨(prepare options assets tables draws game).1, storage, [], #[], #[]⟩

theorem sceneSteps_eq (options : Options) (surroundings : Surroundings) (digest : String)
    (tables : Tables) (draws : Draws) (storage : Storage) (game : Game) :
    sceneSteps options surroundings digest tables draws storage game =
      (Plan.ofGame options surroundings digest game).steps
        (Progress.start options (surroundings.assets storage.disk) tables draws storage game) 0
        game.scenes (prepare options (surroundings.assets storage.disk) tables draws game).2 := rfl

/-- The steps of the run of a document; a run that ends without a report has none. -/
def gameSteps (options : Options) (surroundings : Surroundings) (draws : Draws)
    (storage : Storage) (raw : String) : List SceneStep :=
  match Game.read raw with
  | .error _ => []
  | .ok game =>
      match options.project.makeFolders storage with
      | (.error _, _) => []
      | (.ok (), storage) =>
          match options.project.loadTables storage with
          | (.error _, _) => []
          | (.ok tables, storage) =>
              sceneSteps options surroundings (Sha256.hexDigest raw) tables draws storage game

/-- A run with a report has read its document and opened its project. -/
theorem opened_of_reported {options : Options} {surroundings : Surroundings} {draws : Draws}
    {storage : Storage} {raw : String} {report : Report}
    (reported : (compileGame options surroundings draws storage raw).result = .ok report) :
    ∃ game made tables opened, Game.read raw = .ok game ∧
      options.project.makeFolders storage = (.ok (), made) ∧
      options.project.loadTables made = (.ok tables, opened) ∧
      compileGame options surroundings draws storage raw =
        compileScenes options surroundings (Sha256.hexDigest raw) tables draws opened game := by
  unfold compileGame at reported ⊢
  cases read : Game.read raw with
  | error rejection =>
      rw [read] at reported
      simp at reported
  | ok game =>
      rw [read] at reported
      dsimp only at reported ⊢
      generalize folders : options.project.makeFolders storage = result at reported ⊢
      obtain ⟨done, made⟩ := result
      cases done with
      | error fault => simp at reported
      | ok done =>
          dsimp only at reported ⊢
          generalize loaded : options.project.loadTables made = result at reported ⊢
          obtain ⟨found, opened⟩ := result
          cases found with
          | error fault => simp at reported
          | ok tables => exact ⟨game, made, tables, opened, rfl, rfl, loaded, rfl⟩

theorem compileGame_of_opened {options : Options} (surroundings : Surroundings) (draws : Draws)
    {storage made opened : Storage} {raw : String} {game : Game} {tables : Tables}
    (read : Game.read raw = .ok game)
    (folders : options.project.makeFolders storage = (.ok (), made))
    (loaded : options.project.loadTables made = (.ok tables, opened)) :
    compileGame options surroundings draws storage raw =
      compileScenes options surroundings (Sha256.hexDigest raw) tables draws opened game := by
  unfold compileGame
  rw [read]
  dsimp only
  rw [folders]
  dsimp only
  rw [loaded]

theorem gameSteps_of_opened {options : Options} (surroundings : Surroundings) (draws : Draws)
    {storage made opened : Storage} {raw : String} {game : Game} {tables : Tables}
    (read : Game.read raw = .ok game)
    (folders : options.project.makeFolders storage = (.ok (), made))
    (loaded : options.project.loadTables made = (.ok tables, opened)) :
    gameSteps options surroundings draws storage raw =
      sceneSteps options surroundings (Sha256.hexDigest raw) tables draws opened game := by
  unfold gameSteps
  rw [read]
  dsimp only
  rw [folders]
  dsimp only
  rw [loaded]

/-- What the report of a run lists; nothing where it ends without a report. -/
def Outcome.listed {α : Type} (part : Report → List α) (outcome : Outcome) : List α :=
  match outcome.result with
  | .ok report => part report
  | .error _ => []

def Outcome.aborted (outcome : Outcome) : List AbortedScene := outcome.listed Report.aborted

def Outcome.saved (outcome : Outcome) : List SavedScene := outcome.listed Report.saved

section Reports

variable {α : Type} (part : Report → List α) (listed : Progress → List α)
  (added : SceneStep → List α)

/-- What every step adds to a list is what the report lists in the end. -/
theorem compileScenes_adds
    (grows : ∀ step : SceneStep, listed step.after = listed step.before ++ added step)
    (fresh : ∀ context storage, listed ⟨context, storage, [], #[], #[]⟩ = [])
    (shown : ∀ title (p : Progress) cancelled,
      part ⟨title, p.saved.toList, p.aborted.toList, p.context.log.entries.toList, cancelled⟩ =
        listed p)
    (options : Options) (surroundings : Surroundings) (digest : String) (tables : Tables)
    (draws : Draws) (storage : Storage) (game : Game) :
    (compileScenes options surroundings digest tables draws storage game).listed part =
      (sceneSteps options surroundings digest tables draws storage game).flatMap added := by
  unfold compileScenes sceneSteps Outcome.listed
  dsimp only
  have whole := Plan.compileEntries_adds listed added grows
    (Plan.ofGame options surroundings digest game)
  refine (shown _ _ _).trans ((whole _ _ _ _).trans ?_)
  rw [fresh]
  exact List.nil_append _

theorem compileGame_adds
    (grows : ∀ step : SceneStep, listed step.after = listed step.before ++ added step)
    (fresh : ∀ context storage, listed ⟨context, storage, [], #[], #[]⟩ = [])
    (shown : ∀ title (p : Progress) cancelled,
      part ⟨title, p.saved.toList, p.aborted.toList, p.context.log.entries.toList, cancelled⟩ =
        listed p)
    (options : Options) (surroundings : Surroundings) (draws : Draws) (storage : Storage)
    (raw : String) :
    (compileGame options surroundings draws storage raw).listed part =
      (gameSteps options surroundings draws storage raw).flatMap added := by
  unfold compileGame gameSteps
  cases Game.read raw with
  | error rejection => rfl
  | ok game =>
      dsimp only
      obtain ⟨result, made⟩ := options.project.makeFolders storage
      cases result with
      | error fault => rfl
      | ok done =>
          dsimp only
          obtain ⟨result, opened⟩ := options.project.loadTables made
          cases result with
          | error fault => rfl
          | ok tables => exact compileScenes_adds part listed added grows fresh shown ..

end Reports

/-- A report lists the scenes that the steps of its run gave up. -/
theorem compileGame_aborted (options : Options) (surroundings : Surroundings) (draws : Draws)
    (storage : Storage) (raw : String) :
    (compileGame options surroundings draws storage raw).aborted =
      (gameSteps options surroundings draws storage raw).flatMap SceneStep.aborted :=
  compileGame_adds Report.aborted (fun p => p.aborted.toList) SceneStep.aborted
    SceneStep.after_aborted (fun _ _ => rfl) (fun _ _ _ => rfl) options surroundings draws storage
    raw

/-- A report lists the scenes that the steps of its run saved. -/
theorem compileGame_saved (options : Options) (surroundings : Surroundings) (draws : Draws)
    (storage : Storage) (raw : String) :
    (compileGame options surroundings draws storage raw).saved =
      (gameSteps options surroundings draws storage raw).flatMap SceneStep.saved :=
  compileGame_adds Report.saved (fun p => p.saved.toList) SceneStep.saved SceneStep.after_saved
    (fun _ _ => rfl) (fun _ _ _ => rfl) options surroundings draws storage raw

end GameScenes.Build
