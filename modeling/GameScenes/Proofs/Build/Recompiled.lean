import GameScenes.Proofs.Build.Abandoned
import GameScenes.Proofs.Build.Resumed
import Mathlib.Data.List.Basic

/-!
# Games that are compiled again

A game that is compiled again into the project which the first run left behind should give the
same artifacts.  It does so if and only if every scene of the first run is built in the same way
over all the layers that this run has registered at its end (`compileGame_again_iff`).
-/

set_option autoImplicit false

namespace GameScenes.Build

open Document (Game SceneEntry)
open Scene (Artifact ButtonAction)
open ProjectFolder (Prepared Located TablesHeld Resavable Grows tablesName)

namespace Plan

variable {plan : Plan} {store : AssetStore} {p q : Progress}

theorem stepAt_resumed (plan : Plan) (p q : Progress) (index : Nat) (entry : SceneEntry)
    (actions : List (List (Option ButtonAction))) :
    (plan.stepAt p index entry actions).resumed q = plan.stepAt q index entry actions := rfl

/-! ## The first run -/

theorem layers_compileEntries (plan : Plan) (p : Progress) (index : Nat)
    (entries : List SceneEntry) (actions : List (List (Option ButtonAction))) :
    (plan.compileEntries p index entries actions).1.context.layers =
      p.context.layers.registerAll
        ((plan.steps p index entries actions).flatMap SceneStep.layers) := by
  induction entries generalizing p index actions with
  | nil => rfl
  | cons entry rest ih =>
      rcases plan.run_cases p index entry rest actions with ⟨steps, last⟩ | ⟨steps, last⟩
      · rw [steps, last]
        rfl
      · rw [steps, last, ih, List.flatMap_cons, LayerTable.registerAll_append,
          SceneStep.layers_after]
        rfl

theorem compileEntries_last (plan : Plan) (p : Progress) (index : Nat)
    (entries : List SceneEntry) (actions : List (List (Option ButtonAction))) :
    (plan.compileEntries p index entries actions).1 =
      (((plan.steps p index entries actions).getLast?).map SceneStep.after).getD p := by
  induction entries generalizing p index actions with
  | nil => rfl
  | cons entry rest ih =>
      rcases plan.run_cases p index entry rest actions with ⟨steps, last⟩ | ⟨steps, last⟩
      · rw [steps, last]
        rfl
      · rw [steps, last, ih, List.getLast?_cons]
        cases (plan.steps (plan.stepAt p index entry actions).after (index + 1) rest
          actions.tail).getLast? <;> rfl

/-- Where all layers of the scenes are absorbed from the beginning on, they never change. -/
theorem layers_of_steps (plan : Plan) (p : Progress) (index : Nat) (entries : List SceneEntry)
    (actions : List (List (Option ButtonAction)))
    (absorbs : ∀ scene ∈ entries.filterMap SceneEntry.scene?,
      ∀ name ∈ layersOf scene.gameObjects, p.context.layers.Absorbs name) :
    (∀ step ∈ plan.steps p index entries actions,
        step.before.context.layers = p.context.layers) ∧
      (plan.compileEntries p index entries actions).1.context.layers = p.context.layers := by
  induction entries generalizing p index actions with
  | nil => exact ⟨by simp [steps], rfl⟩
  | cons entry rest ih =>
      rcases plan.run_cases p index entry rest actions with ⟨steps, last⟩ | ⟨steps, last⟩
      · rw [steps, last]
        exact ⟨by simp, rfl⟩
      · have own := (plan.stepAt p index entry actions).layers_absorbed fun scene parsed =>
          absorbs scene (List.mem_filterMap.mpr ⟨entry, List.mem_cons_self .., parsed⟩)
        have stays : (plan.stepAt p index entry actions).after.context.layers =
            p.context.layers := by
          rw [SceneStep.layers_after]
          exact LayerTable.registerAll_of_absorbs own
        have later := ih (plan.stepAt p index entry actions).after (index + 1) actions.tail
          (by
            rw [stays]
            intro scene member
            obtain ⟨other, behind, parsed⟩ := List.mem_filterMap.mp member
            exact absorbs scene
              (List.mem_filterMap.mpr ⟨other, List.mem_cons_of_mem _ behind, parsed⟩))
        rw [stays] at later
        obtain ⟨befores, final⟩ := later
        rw [steps, last]
        refine ⟨?_, final⟩
        intro step member
        rcases List.mem_cons.mp member with rfl | behind
        · rfl
        · exact befores step behind

/-- That the tables of a run are in the project. -/
def TablesKept (plan : Plan) (p : Progress) : Prop :=
  plan.project.TablesHeld p.storage p.context.tables

/-- What a run without a fault of the disk leaves behind: a project in which every scene that was
built can be saved again and which, as soon as there is such a scene, holds the tables. -/
theorem compileEntries_of_succeeds (plan : Plan) (p : Progress) (index : Nat)
    (entries : List SceneEntry) (actions : List (List (Option ButtonAction)))
    (success : ∀ step ∈ plan.steps p index entries actions, step.succeeds = true)
    (prepared : plan.project.Prepared p.storage)
    (located : plan.project.Located p.storage tablesName) :
    plan.project.Grows p.storage (plan.compileEntries p index entries actions).1.storage ∧
      (∀ step ∈ plan.steps p index entries actions, ∀ scene, step.scene? = some scene →
        plan.project.Resavable (plan.compileEntries p index entries actions).1.storage
          scene.name) ∧
      (plan.TablesKept p ∨ (∃ step ∈ plan.steps p index entries actions, step.scene? ≠ none) →
        plan.TablesKept (plan.compileEntries p index entries actions).1) := by
  induction entries generalizing p index actions with
  | nil => exact ⟨Grows.refl _, by simp [steps], by simp [steps, compileEntries]⟩
  | cons entry rest ih =>
      rcases plan.run_cases p index entry rest actions with ⟨steps, last⟩ | ⟨steps, last⟩
      · rw [steps, last]
        exact ⟨Grows.refl _, by simp, by simp⟩
      · rw [steps] at success ⊢
        rw [last]
        generalize here : plan.stepAt p index entry actions = step at success ⊢
        have samePlan : step.plan = plan := by rw [← here]; rfl
        have before : step.before = p := by rw [← here]; rfl
        have now := success step (List.mem_cons_self ..)
        have later := fun other member => success other (List.mem_cons_of_mem _ member)
        -- the step itself, whether it builds a scene or not
        have grown : plan.project.Grows p.storage step.after.storage ∧
            (∀ scene, step.scene? = some scene →
              plan.project.Resavable step.after.storage scene.name) ∧
            (plan.TablesKept p ∨ step.scene? ≠ none → plan.TablesKept step.after) := by
          cases built : step.scene? with
          | none =>
              have storage := (step.after_of_none built).1
              have tables := (step.context_of_none built).2.1
              rw [before] at storage tables
              unfold TablesKept
              rw [storage, tables]
              exact ⟨Grows.refl _, by simp, by simp⟩
          | some scene =>
              obtain ⟨grows, resavable, held⟩ := step.after_of_succeeds now built
                (by rw [samePlan, before]; exact prepared)
                (by rw [samePlan, before]; exact located)
              rw [samePlan, before] at grows
              rw [samePlan] at resavable held
              refine ⟨grows, ?_, fun _ => held⟩
              rintro other ⟨⟩
              exact resavable
        obtain ⟨grows, resavable, kept⟩ := grown
        obtain ⟨further, others, rests⟩ := ih step.after (index + 1) actions.tail later
          (prepared.mono grows.keepsFolders) (located.mono grows.keepsFolders)
        refine ⟨grows.trans further, ?_, ?_⟩
        · intro other member scene built
          rcases List.mem_cons.mp member with rfl | behind
          · exact (resavable scene built).mono further
          · exact others other behind scene built
        · rintro (held | ⟨other, member, built⟩)
          · exact rests (.inl (kept (.inl held)))
          · rcases List.mem_cons.mp member with rfl | behind
            · exact rests (.inl (kept (.inr built)))
            · exact rests (.inr ⟨other, behind, built⟩)

/-! ## The second run -/

/-- Over one store the steps of two runs come to the same scenes. -/
theorem scenes_of_steps (fixed : plan.surroundings.assets = fun _ => store)
    (core : q.context.core = p.context.core) (seen : q.seen = p.seen) (index : Nat)
    (entries : List SceneEntry) (actions : List (List (Option ButtonAction))) :
    (plan.steps q index entries actions).map SceneStep.scene? =
      (plan.steps p index entries actions).map SceneStep.scene? := by
  induction entries generalizing p q index actions with
  | nil => rfl
  | cons entry rest ih =>
      have asked : q.context.asked = p.context.asked := congrArg Core.asked core
      obtain ⟨cores, paths⟩ := (plan.stepAt p index entry actions).after_resumed fixed core seen
      have same := (plan.stepAt p index entry actions).scene?_resumed seen
      rw [stepAt_resumed] at cores paths same
      rw [steps_cons, steps_cons, asked]
      split
      · rfl
      · rw [List.map_cons, List.map_cons, ih cores paths, same]

/-- A run that is repeated over layers which absorb all those of the first run saves every scene as
it is built over them. -/
theorem savedArtifacts_resumed (fixed : plan.surroundings.assets = fun _ => store)
    (core : q.context.core = p.context.core) (seen : q.seen = p.seen) (index : Nat)
    (entries : List SceneEntry) (actions : List (List (Option ButtonAction)))
    (willing : q.storage.Willing) (prepared : plan.project.Prepared q.storage)
    (absorbs : ∀ step ∈ plan.steps p index entries actions, ∀ name ∈ step.layers,
      q.context.layers.Absorbs name)
    (resavable : ∀ step ∈ plan.steps p index entries actions, ∀ scene,
      step.scene? = some scene → plan.project.Resavable q.storage scene.name) :
    (plan.steps q index entries actions).filterMap SceneStep.savedArtifact? =
      (plan.steps p index entries actions).filterMap fun step =>
        step.scene?.map (step.artifactOver q.context.layers) := by
  induction entries generalizing p q index actions with
  | nil => rfl
  | cons entry rest ih =>
      have asked : q.context.asked = p.context.asked := congrArg Core.asked core
      rw [steps_cons] at absorbs resavable
      rw [steps_cons, steps_cons, asked]
      split
      · rfl
      next runs =>
        rw [if_neg runs] at absorbs resavable
        generalize here : plan.stepAt p index entry actions = step at absorbs resavable ⊢
        have samePlan : step.plan = plan := by rw [← here]; rfl
        have before : step.before = p := by rw [← here]; rfl
        have again := plan.stepAt_resumed p q index entry actions
        rw [here] at again
        rw [← samePlan] at fixed prepared resavable
        rw [← before] at core seen
        obtain ⟨cores, paths⟩ := step.after_resumed fixed core seen
        obtain ⟨saved, grows⟩ := step.savedArtifact?_resumed fixed core seen willing prepared
          (resavable step (List.mem_cons_self ..))
        have scenes := step.scene?_resumed seen
        -- the layers of the step are absorbed, so that the rest is built over the same ones
        have layers : (step.resumed q).after.context.layers = q.context.layers := by
          rw [SceneStep.layers_after]
          apply LayerTable.registerAll_of_absorbs
          intro name member
          apply absorbs step (List.mem_cons_self ..)
          unfold SceneStep.layers at member ⊢
          rwa [scenes] at member
        rw [samePlan] at fixed prepared resavable grows
        have rests := ih cores paths (index + 1) actions.tail (grows.willing willing)
          (prepared.mono grows.keepsFolders)
          (by rw [layers]; exact fun other member => absorbs other (List.mem_cons_of_mem _ member))
          (fun other member scene built =>
            (resavable other (List.mem_cons_of_mem _ member) scene built).mono grows)
        rw [layers] at rests
        rw [← again, List.filterMap_cons, List.filterMap_cons, saved, rests]

end Plan

/-! ## Games -/

def savedArtifacts (steps : List SceneStep) : List Artifact :=
  steps.filterMap SceneStep.savedArtifact?

/-- The layers that a run has registered at its end. -/
def layersLeft (steps : List SceneStep) : LayerTable :=
  match steps.getLast? with
  | some last => last.after.context.layers
  | none => LayerTable.builtin

/-- The project that a run leaves behind, on a host that refuses nothing. -/
def Outcome.reopened (outcome : Outcome) : Storage :=
  Storage.start outcome.storage.disk outcome.storage.working fun _ => none

/-- That a run ends with a report, and saves every scene that it builds and the tables. -/
structure Completes (options : Options) (surroundings : Surroundings) (draws : Draws)
    (storage : Storage) (raw : String) : Prop where
  reported : ∃ report, (compileGame options surroundings draws storage raw).result = .ok report
  saved : ∀ step ∈ gameSteps options surroundings draws storage raw, step.succeeds = true

theorem layersLeft_steps (plan : Plan) (p : Progress) (index : Nat) (entries : List SceneEntry)
    (actions : List (List (Option ButtonAction)))
    (some : plan.steps p index entries actions ≠ []) :
    layersLeft (plan.steps p index entries actions) =
      (plan.compileEntries p index entries actions).1.context.layers := by
  rw [plan.compileEntries_last]
  unfold layersLeft
  rw [List.getLast?_eq_some_getLast some]
  rfl

theorem savedArtifacts_of_unbuilt {steps : List SceneStep}
    (unbuilt : ∀ step ∈ steps, step.scene? = none) : savedArtifacts steps = [] := by
  unfold savedArtifacts
  rw [List.filterMap_eq_nil_iff]
  intro step member
  unfold SceneStep.savedArtifact?
  rw [unbuilt step member]

/-- The saved scenes that a report lists are those of the artifacts that its run saves. -/
theorem names_of_savedArtifacts (options : Options) (surroundings : Surroundings) (draws : Draws)
    (storage : Storage) (raw : String) :
    (compileGame options surroundings draws storage raw).saved.map (·.name) =
      (savedArtifacts (gameSteps options surroundings draws storage raw)).map (·.name) := by
  rw [compileGame_saved]
  unfold savedArtifacts
  induction gameSteps options surroundings draws storage raw with
  | nil => rfl
  | cons step rest ih =>
      rw [List.flatMap_cons, List.map_append, ih, step.saved_names, List.filterMap_cons]
      cases step.savedArtifact? <;> rfl

theorem compileScenes_storage (options : Options) (surroundings : Surroundings) (digest : String)
    (tables : Tables) (draws : Draws) (storage : Storage) (game : Game) :
    (compileScenes options surroundings digest tables draws storage game).storage =
      ((Plan.ofGame options surroundings digest game).compileEntries
        (Progress.start options (surroundings.assets storage.disk) tables draws storage game) 0
        game.scenes
        (prepare options (surroundings.assets storage.disk) tables draws game).2).1.storage := rfl

/-- The steps of a run of the game, if it has any, are those from some tables and storage on. -/
theorem gameSteps_cases (options : Options) (surroundings : Surroundings) (draws : Draws)
    (storage : Storage) {raw : String} {game : Game} (read : Game.read raw = .ok game) :
    gameSteps options surroundings draws storage raw = [] ∨
      ∃ tables opened, gameSteps options surroundings draws storage raw =
        sceneSteps options surroundings (Sha256.hexDigest raw) tables draws opened game := by
  unfold gameSteps
  rw [read]
  dsimp only
  split
  · exact .inl rfl
  · split
    · exact .inl rfl
    next tables opened loaded => exact .inr ⟨tables, opened, rfl⟩

/-! ## Games that are compiled again -/

theorem completes_of_checks {options : Options} {surroundings : Surroundings} {draws : Draws}
    {storage : Storage} {raw : String}
    (reported : (compileGame options surroundings draws storage raw).result.isOk = true)
    (saved : (gameSteps options surroundings draws storage raw).all SceneStep.succeeds = true) :
    Completes options surroundings draws storage raw where
  reported := by
    generalize (compileGame options surroundings draws storage raw).result = result at reported ⊢
    cases result with
    | error fault => simp [Except.isOk, Except.toBool] at reported
    | ok report => exact ⟨report, rfl⟩
  saved := by simpa using saved

theorem savedArtifacts_of_succeeds {steps : List SceneStep}
    (success : ∀ step ∈ steps, step.succeeds = true) :
    savedArtifacts steps =
      steps.filterMap fun step => step.scene?.map fun scene => (step.build scene).2 :=
  List.filterMap_congr fun step member => step.savedArtifact?_of_succeeds (success step member)

theorem filterMap_map_inj {α β γ : Type} {xs : List α} {choose : α → Option β}
    {left right : α → β → γ} :
    (xs.filterMap fun x => (choose x).map (left x)) =
        (xs.filterMap fun x => (choose x).map (right x)) ↔
      ∀ x ∈ xs, ∀ y, choose x = some y → left x y = right x y := by
  induction xs with
  | nil => simp
  | cons x rest ih =>
      cases chosen : choose x with
      | none => simp [chosen, ih]
      | some y => simp [chosen, ih]

/-- A project with nothing in it. -/
def bareStorage : Storage := Storage.start Storage.Disk.empty [] fun _ => none

section Again

variable (options : Options) (store : AssetStore) (cancelled : Nat → List AssetCandidate → Bool)
  (draws again : Draws)

/-- Over one store two runs of a game come to the same scenes, whatever their projects hold. -/
theorem scenes_of_sceneSteps (digest : String) (tables others : Tables) (storage opened : Storage)
    (game : Game) :
    (sceneSteps options ⟨fun _ => store, cancelled⟩ digest others again opened game).map
        SceneStep.scene? =
      (sceneSteps options ⟨fun _ => store, cancelled⟩ digest tables draws storage game).map
        SceneStep.scene? := by
  obtain ⟨core, actions⟩ := prepare_congr options store others tables again draws game
  rw [sceneSteps_eq, sceneSteps_eq]
  dsimp only
  rw [actions]
  apply Plan.scenes_of_steps
  · rfl
  · exact core
  · rfl

/-- Where one run of a game builds no scene, no run of it builds one. -/
theorem unbuilt_of_sceneSteps {digest : String} {tables others : Tables} {storage : Storage}
    {game : Game} (unbuilt : ∀ step ∈ sceneSteps options ⟨fun _ => store, cancelled⟩ digest tables
      draws storage game, step.scene? = none) (opened : Storage) :
    ∀ step ∈ sceneSteps options ⟨fun _ => store, cancelled⟩ digest others again opened game,
      step.scene? = none := by
  have scenes := scenes_of_sceneSteps options store cancelled draws again digest tables others
    storage opened game
  intro step member
  have listed := List.mem_map_of_mem (f := SceneStep.scene?) member
  rw [scenes, List.mem_map] at listed
  obtain ⟨other, present, equal⟩ := listed
  rw [← equal, unbuilt other present]

/-- A run has registered all layers that its document names, so that it absorbs them. -/
theorem layersLeft_absorbs {surroundings : Surroundings} {digest : String} {tables : Tables}
    {storage : Storage} {game : Game}
    (some : sceneSteps options surroundings digest tables draws storage game ≠ []) :
    (∀ name ∈ settingsLayers game.settings,
        (layersLeft (sceneSteps options surroundings digest tables draws storage game)).Absorbs
          name) ∧
      ∀ step ∈ sceneSteps options surroundings digest tables draws storage game,
        ∀ name ∈ step.layers,
          (layersLeft (sceneSteps options surroundings digest tables draws storage game)).Absorbs
            name := by
  rw [sceneSteps_eq] at some ⊢
  rw [layersLeft_steps _ _ _ _ _ some, Plan.layers_compileEntries]
  constructor
  · intro name member
    apply LayerTable.Absorbs.registerAll
    have start := layers_prepare options (surroundings.assets storage.disk) tables draws game
    unfold Progress.start
    rw [start]
    exact LayerTable.absorbs_registerAll tables.layers member
  · intro step member name named
    exact LayerTable.absorbs_registerAll _ (List.mem_flatMap.mpr ⟨step, member, named⟩)

/-- A run over tables that absorb all layers of the first run saves every scene as it is built over
the layers of these tables. -/
theorem savedArtifacts_sceneSteps {digest : String} {tables others : Tables}
    {storage opened : Storage} {game : Game} (willing : opened.Willing)
    (prepared : options.project.Prepared opened)
    (settled : ∀ name ∈ settingsLayers game.settings, others.layers.Absorbs name)
    (absorbs : ∀ step ∈ sceneSteps options ⟨fun _ => store, cancelled⟩ digest tables draws storage
      game, ∀ name ∈ step.layers, others.layers.Absorbs name)
    (resavable : ∀ step ∈ sceneSteps options ⟨fun _ => store, cancelled⟩ digest tables draws storage
      game, ∀ scene, step.scene? = some scene → options.project.Resavable opened scene.name) :
    savedArtifacts (sceneSteps options ⟨fun _ => store, cancelled⟩ digest others again opened
        game) =
      (sceneSteps options ⟨fun _ => store, cancelled⟩ digest tables draws storage game).filterMap
        fun step => step.scene?.map (step.artifactOver others.layers) := by
  obtain ⟨core, actions⟩ := prepare_congr options store others tables again draws game
  have cores : (Progress.start options store others again opened game).context.core =
      (Progress.start options store tables draws storage game).context.core := core
  have layers := layers_prepare options store others again game
  rw [LayerTable.registerAll_of_absorbs settled] at layers
  rw [sceneSteps_eq] at absorbs resavable
  rw [sceneSteps_eq, sceneSteps_eq]
  dsimp only at absorbs resavable ⊢
  unfold savedArtifacts
  rw [actions, ← layers]
  rw [← layers] at absorbs
  exact Plan.savedArtifacts_resumed rfl cores rfl 0 game.scenes _ willing prepared absorbs
    resavable

/-- What the first run of a game leaves in its project. -/
theorem compileScenes_of_succeeds {surroundings : Surroundings} {digest : String} {tables : Tables}
    {storage : Storage} {game : Game} (prepared : options.project.Prepared storage)
    (located : options.project.Located storage tablesName)
    (success : ∀ step ∈ sceneSteps options surroundings digest tables draws storage game,
      step.succeeds = true)
    (built : ∃ step ∈ sceneSteps options surroundings digest tables draws storage game,
      step.scene? ≠ none) :
    options.project.Prepared
        (compileScenes options surroundings digest tables draws storage game).storage ∧
      (∀ step ∈ sceneSteps options surroundings digest tables draws storage game, ∀ scene,
        step.scene? = some scene → options.project.Resavable
          (compileScenes options surroundings digest tables draws storage game).storage
          scene.name) ∧
      ∃ left : Tables, left.layers =
          layersLeft (sceneSteps options surroundings digest tables draws storage game) ∧
        options.project.TablesHeld
          (compileScenes options surroundings digest tables draws storage game).storage left := by
  have some : sceneSteps options surroundings digest tables draws storage game ≠ [] := by
    obtain ⟨step, member, -⟩ := built
    exact List.ne_nil_of_mem member
  rw [compileScenes_storage]
  rw [sceneSteps_eq] at success built some ⊢
  obtain ⟨grows, resavable, kept⟩ := Plan.compileEntries_of_succeeds _ _ _ _ _ success
    prepared located
  exact ⟨prepared.mono grows.keepsFolders, resavable, _,
    (layersLeft_steps _ _ _ _ _ some).symm, kept (.inr built)⟩

/-- A run that finds the tables which a first run left behind saves every scene as it is built over
the layers of these tables. -/
theorem savedArtifacts_reopened {raw : String} {game : Game} (read : Game.read raw = .ok game)
    {tables left : Tables} {opened : Storage} {first : Outcome}
    (taken : sceneSteps options ⟨fun _ => store, cancelled⟩ (Sha256.hexDigest raw) tables draws
      opened game ≠ [])
    (prepared : options.project.Prepared first.storage)
    (resavable : ∀ step ∈ sceneSteps options ⟨fun _ => store, cancelled⟩ (Sha256.hexDigest raw)
      tables draws opened game, ∀ scene, step.scene? = some scene →
        options.project.Resavable first.storage scene.name)
    (layers : left.layers = layersLeft (sceneSteps options ⟨fun _ => store, cancelled⟩
      (Sha256.hexDigest raw) tables draws opened game))
    (held : options.project.TablesHeld first.storage left) :
    savedArtifacts (gameSteps options ⟨fun _ => store, cancelled⟩ again first.reopened raw) =
      (sceneSteps options ⟨fun _ => store, cancelled⟩ (Sha256.hexDigest raw) tables draws opened
        game).filterMap fun step => step.scene?.map (step.artifactOver left.layers) := by
  have willing : first.reopened.Willing := fun _ => rfl
  have startPrepared : options.project.Prepared first.reopened := prepared.start _
  have folders := ProjectFolder.makeFolders_of_prepared startPrepared
  have found := ProjectFolder.loadTables_of_tablesHeld willing (held.start _)
  generalize loaded : options.project.loadTables first.reopened = result at found
  obtain ⟨outcome, reopened⟩ := result
  cases found
  have grows := ProjectFolder.grows_loadTables loaded
  obtain ⟨settled, absorbs⟩ := layersLeft_absorbs options draws taken
  rw [← layers] at settled absorbs
  rw [gameSteps_of_opened ⟨fun _ => store, cancelled⟩ again read folders loaded]
  refine savedArtifacts_sceneSteps options store cancelled draws again (grows.willing willing)
    (startPrepared.mono grows.keepsFolders) settled absorbs ?_
  intro step member scene present
  exact ((resavable step member scene present).start _).mono grows

/-- Where one run of a game builds no scene, no run of it saves one. -/
theorem savedArtifacts_gameSteps_of_unbuilt {raw : String} {game : Game}
    (read : Game.read raw = .ok game) {tables : Tables} {opened : Storage}
    (unbuilt : ∀ step ∈ sceneSteps options ⟨fun _ => store, cancelled⟩ (Sha256.hexDigest raw)
      tables draws opened game, step.scene? = none) (storage : Storage) :
    savedArtifacts (gameSteps options ⟨fun _ => store, cancelled⟩ again storage raw) = [] := by
  rcases gameSteps_cases options ⟨fun _ => store, cancelled⟩ again storage read with
    empty | ⟨others, reopened, same⟩
  · rw [empty]
    rfl
  · rw [same]
    apply savedArtifacts_of_unbuilt
    exact unbuilt_of_sceneSteps options store cancelled draws again unbuilt reopened

/-- A run that is repeated saves every scene as it is built over the layers that the first run left
behind. -/
theorem savedArtifacts_again {storage : Storage} {raw : String}
    (here : storage.disk.get? storage.working = some .folder)
    (completes : Completes options ⟨fun _ => store, cancelled⟩ draws storage raw) :
    savedArtifacts (gameSteps options ⟨fun _ => store, cancelled⟩ again
        (compileGame options ⟨fun _ => store, cancelled⟩ draws storage raw).reopened raw) =
      (gameSteps options ⟨fun _ => store, cancelled⟩ draws storage raw).filterMap fun step =>
        step.scene?.map (step.artifactOver
          (layersLeft (gameSteps options ⟨fun _ => store, cancelled⟩ draws storage raw))) := by
  obtain ⟨report, reported⟩ := completes.reported
  have saved := completes.saved
  obtain ⟨game, made, tables, opened, read, folders, loaded, whole⟩ := opened_of_reported reported
  have steps := gameSteps_of_opened ⟨fun _ => store, cancelled⟩ draws read folders loaded
  rw [whole, steps]
  rw [steps] at saved
  by_cases built : ∃ step ∈ sceneSteps options ⟨fun _ => store, cancelled⟩ (Sha256.hexDigest raw)
      tables draws opened game, step.scene? ≠ none
  · have prepared := ProjectFolder.prepared_of_makeFolders here folders
    obtain ⟨located, -⟩ := ProjectFolder.load_eq_ok prepared (by decide) loaded
    have grows := ProjectFolder.grows_loadTables loaded
    obtain ⟨lastPrepared, resavable, left, layers, held⟩ := compileScenes_of_succeeds options draws
      (prepared.mono grows.keepsFolders) (located.mono grows.keepsFolders) saved built
    have some : sceneSteps options ⟨fun _ => store, cancelled⟩ (Sha256.hexDigest raw) tables draws
        opened game ≠ [] := by
      obtain ⟨step, member, -⟩ := built
      exact List.ne_nil_of_mem member
    rw [← layers]
    exact savedArtifacts_reopened options store cancelled draws again read some lastPrepared
      resavable layers held
  · have unbuilt : ∀ step ∈ sceneSteps options ⟨fun _ => store, cancelled⟩ (Sha256.hexDigest raw)
        tables draws opened game, step.scene? = none := by simpa using built
    rw [savedArtifacts_gameSteps_of_unbuilt options store cancelled draws again read unbuilt]
    symm
    rw [List.filterMap_eq_nil_iff]
    intro step member
    rw [unbuilt step member]
    rfl

/-- The artifacts that a run saves are those of the scenes that its report lists as saved.  Compiling
a game again into the project which the first run left behind gives the same artifacts exactly when
every scene of the first run is built in the same way over the layers of its end. -/
theorem compileGame_again_iff {storage : Storage} {raw : String}
    (here : storage.disk.get? storage.working = some .folder)
    (completes : Completes options ⟨fun _ => store, cancelled⟩ draws storage raw) :
    (∀ draws storage,
      (compileGame options ⟨fun _ => store, cancelled⟩ draws storage raw).saved.map (·.name) =
        (savedArtifacts (gameSteps options ⟨fun _ => store, cancelled⟩ draws storage raw)).map
          (·.name)) ∧
      (savedArtifacts (gameSteps options ⟨fun _ => store, cancelled⟩ again
            (compileGame options ⟨fun _ => store, cancelled⟩ draws storage raw).reopened raw) =
          savedArtifacts (gameSteps options ⟨fun _ => store, cancelled⟩ draws storage raw) ↔
        ∀ step ∈ gameSteps options ⟨fun _ => store, cancelled⟩ draws storage raw, ∀ scene,
          step.scene? = some scene →
            step.artifactOver
                (layersLeft (gameSteps options ⟨fun _ => store, cancelled⟩ draws storage raw))
                scene =
              (step.build scene).2) := by
  refine ⟨fun draws storage => names_of_savedArtifacts options _ draws storage raw, ?_⟩
  rw [savedArtifacts_again options store cancelled draws again here completes,
    savedArtifacts_of_succeeds completes.saved, filterMap_map_inj]

/-- A game whose settings list every layer that its objects name gives the same artifacts when it is
compiled again. -/
theorem savedArtifacts_again_of_listed {storage : Storage} {raw : String}
    (here : storage.disk.get? storage.working = some .folder)
    (completes : Completes options ⟨fun _ => store, cancelled⟩ draws storage raw)
    (listed : ∀ game, Game.read raw = .ok game →
      ∀ scene ∈ game.scenes.filterMap SceneEntry.scene?,
        layersOf scene.gameObjects ⊆ settingsLayers game.settings) :
    savedArtifacts (gameSteps options ⟨fun _ => store, cancelled⟩ again
        (compileGame options ⟨fun _ => store, cancelled⟩ draws storage raw).reopened raw) =
      savedArtifacts (gameSteps options ⟨fun _ => store, cancelled⟩ draws storage raw) := by
  rw [savedArtifacts_again options store cancelled draws again here completes,
    savedArtifacts_of_succeeds completes.saved]
  obtain ⟨report, reported⟩ := completes.reported
  obtain ⟨game, made, tables, opened, read, folders, loaded, -⟩ := opened_of_reported reported
  rw [gameSteps_of_opened ⟨fun _ => store, cancelled⟩ draws read folders loaded, sceneSteps_eq]
  apply List.filterMap_congr
  intro step member
  have start := layers_prepare options store tables draws game
  obtain ⟨befores, last⟩ := Plan.layers_of_steps
    (Plan.ofGame options ⟨fun _ => store, cancelled⟩ (Sha256.hexDigest raw) game)
    (Progress.start options store tables draws opened game) 0 game.scenes
    (prepare options store tables draws game).2 (by
      intro scene present name named
      change (prepare options store tables draws game).1.layers.Absorbs name
      rw [start]
      exact LayerTable.absorbs_registerAll _ (listed game read scene present named))
  have left := layersLeft_steps _ _ _ _ _ (List.ne_nil_of_mem member)
  congr 1
  funext scene
  exact step.artifactOver_of_layers
    ((befores step member).trans (last.symm.trans left.symm)) scene

end Again

/-- A scene without objects is the same when it is compiled again. -/
theorem compileGame_again_lone_scene :
    bareStorage.disk.get? bareStorage.working = some .folder ∧
      Completes plainOptions bareSurroundings plainDraws bareStorage loneSceneText ∧
      savedArtifacts (gameSteps plainOptions bareSurroundings plainDraws
          (compileGame plainOptions bareSurroundings plainDraws bareStorage
            loneSceneText).reopened loneSceneText) =
        savedArtifacts (gameSteps plainOptions bareSurroundings plainDraws bareStorage
          loneSceneText) := by
  have completes : Completes plainOptions bareSurroundings plainDraws bareStorage loneSceneText :=
    completes_of_checks (by decide +kernel) (by decide +kernel)
  have settled : (gameSteps plainOptions bareSurroundings plainDraws bareStorage
      loneSceneText).all (fun step => decide (step.before.context.layers = layersLeft
        (gameSteps plainOptions bareSurroundings plainDraws bareStorage loneSceneText))) = true := by
    decide +kernel
  refine ⟨rfl, completes,
    (compileGame_again_iff plainOptions _ _ plainDraws plainDraws rfl completes).2.mpr ?_⟩
  intro step member scene built
  have same := List.all_eq_true.mp settled step member
  exact step.artifactOver_of_layers (of_decide_eq_true same) scene

/-! ## A layer that is registered late -/

/-- A game whose ground comes after an object that looks for it. -/
def lateGroundText : String :=
  "\x7b\"game\":\x7b\"scenes\":[\x7b\"gameObjects\":[" ++
    "\x7b\"scripts\":[\x7b\"name\":\"PlayerController\"\x7d]\x7d," ++
    "\x7b\"layer\":\"Ground\"\x7d]\x7d]\x7d\x7d"

/-- Whether some behavior of a scene has a value in a field. -/
def fills (field : String) (artifact : Artifact) : Bool :=
  artifact.graph.entities.toList.any fun entity =>
    entity.components.behaviors.any (·.isSet field)

/-- The first run finds no ground for the behavior, the second one does. -/
theorem compileGame_again_fills_ground :
    Completes plainOptions bareSurroundings plainDraws bareStorage lateGroundText ∧
      savedArtifacts (gameSteps plainOptions bareSurroundings plainDraws
          (compileGame plainOptions bareSurroundings plainDraws bareStorage
            lateGroundText).reopened lateGroundText) ≠
        savedArtifacts (gameSteps plainOptions bareSurroundings plainDraws bareStorage
          lateGroundText) := by
  have completes : Completes plainOptions bareSurroundings plainDraws bareStorage
      lateGroundText := completes_of_checks (by decide +kernel) (by decide +kernel)
  have again := savedArtifacts_again plainOptions _ _ plainDraws plainDraws rfl completes
  refine ⟨completes, ?_⟩
  intro same
  have early : (gameSteps plainOptions bareSurroundings plainDraws bareStorage
      lateGroundText).filterMap (fun step => step.savedArtifact?.map (fills "groundMask")) =
        [false] := by decide +kernel
  have late : (gameSteps plainOptions bareSurroundings plainDraws bareStorage
      lateGroundText).filterMap (fun step => (step.scene?.map (step.artifactOver (layersLeft
        (gameSteps plainOptions bareSurroundings plainDraws bareStorage
          lateGroundText)))).map (fills "groundMask")) = [true] := by decide +kernel
  rw [← List.map_filterMap] at early late
  have filled := congrArg (List.map (fills "groundMask")) (again.symm.trans same)
  have wrong : [true] = [false] := late.symm.trans (filled.trans early)
  simp at wrong

end GameScenes.Build
