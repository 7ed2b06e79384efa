import GameScenes.Proofs.Build.Parallel
import GameScenes.Proofs.Build.Recorded
import GameScenes.Proofs.Project.Renumbered

/-!
# Runs with other draws

The draws decide about nothing but the identifiers of new sorting layers, and no scene and no fault
depends on these: a run that is repeated with other draws comes to the same report and to the same
artifacts, and it leaves the same files except for the tables, which differ in the identifiers of
the sorting layers that were added (`draws_decide_new_ids_only`).
-/

set_option autoImplicit false

namespace GameScenes.Build

open Context
open Document (Game)
open ProjectFolder (IdsApart buildListName tablesName)
open Scene (Artifact ButtonAction)
open Storage (Parallel Place draftName)
open Tables (SameButNewIds)

/-! ## Contexts -/

/-- That building reads and records the same in two contexts, and that their tables differ in new
identifiers only. -/
structure Context.SameButIds (base : Tables) (c d : Context) : Prop where
  view : c.view = d.view
  tables : base.SameButNewIds c.tables d.tables

variable {base : Tables} {c d : Context}

theorem Context.SameButIds.compileScene (same : c.SameButIds base d) (scene : Document.Scene)
    (tilesets : List Document.Tileset) (actions : List (Option ButtonAction))
    (provenance : Provenance) :
    (compileScene c scene tilesets actions provenance).1.SameButIds base
      (compileScene d scene tilesets actions provenance).1 where
  view := (concur_compileScene same.view scene tilesets actions provenance).view
  tables := by
    obtain ⟨entries, left, right⟩ :=
      entries_compileScene (congrArg View.core same.view) scene tilesets actions provenance
    have begun : base.SameButNewIds c.ledger.tables d.ledger.tables := same.tables
    have entered := begun.enterAll entries
    rw [← left, ← right] at entered
    exact entered

/-- Two runs over the scenes of one document, of which nothing but new identifiers may differ. -/
def Plan.idsApart (plan : Plan) (base : Tables) (working : Place) :
    Likeness plan plan.provenance.sourceDigest working where
  contexts := Context.SameButIds base
  aborted := Eq
  near := plan.project.IdsApart working base
  core same := congrArg View.core same.view
  layers same := congrArg View.layers same.view
  located assets same := ⟨view_located same.view assets, same.tables⟩
  faulted scene fault same :=
    ⟨view_leaveScene (view_record (view_enterScene same.view scene) fault), same.tables⟩
  built scene actions same := same.compileScene scene plan.tilesets actions plan.provenance
  pushed scene same := congrArg (·.push scene) same
  tolerates := plan.project.tolerates_idsApart working base
  scenes artifact own := by
    have same : artifact.redigested plan.provenance.sourceDigest = artifact := by rw [← own]; rfl
    rw [same]
    exact .of_eq .same _ _ _
  tables same :=
    { same := .same
      file := .tables same.tables
      draft := .inr .draft }

/-- What a step saves has the digest of its plan. -/
theorem SceneStep.digest_of_savedArtifact? {step : SceneStep} {artifact : Artifact}
    (saved : step.savedArtifact? = some artifact) :
    artifact.sourceDigest = step.plan.provenance.sourceDigest := by
  unfold savedArtifact? at saved
  split at saved
  · cases saved
  · split at saved
    · cases saved
      rfl
    · cases saved

theorem Plan.savedArtifacts_redigested (plan : Plan) (p : Progress) (index : Nat)
    (entries : List Document.SceneEntry) (actions : List (List (Option ButtonAction))) :
    (savedArtifacts (plan.steps p index entries actions)).map
        (·.redigested plan.provenance.sourceDigest) =
      savedArtifacts (plan.steps p index entries actions) := by
  induction entries generalizing p index actions with
  | nil => rfl
  | cons entry rest ih =>
      rw [steps_cons]
      split
      · rfl
      · unfold savedArtifacts at ih ⊢
        rw [List.filterMap_cons]
        split
        · exact ih _ _ _
        · next artifact saved =>
            have own : artifact.redigested plan.provenance.sourceDigest = artifact := by
              rw [show plan.provenance.sourceDigest = artifact.sourceDigest from
                (SceneStep.digest_of_savedArtifact? saved).symm]
              rfl
            rw [List.map_cons, own, ih]

/-! ## Games -/

section Games

variable (options : Options) {surroundings : Surroundings} (digest : String) (tables : Tables)
  (draws again : Draws) (storage : Storage) (game : Game)

/-- A game is prepared in the same way whatever is drawn. -/
theorem prepare_redrawn (assets : AssetStore) :
    (prepare options assets tables draws game).1.SameButIds tables
        (prepare options assets tables again game).1 ∧
      (prepare options assets tables again game).2 =
        (prepare options assets tables draws game).2 := by
  have both : Concur (prepare options assets tables draws game)
      (prepare options assets tables again game) := concur_prepare options assets rfl draws again game
  refine ⟨⟨both.view, ?_⟩, both.value.symm⟩
  -- the settings are entered into one table with each of the draws
  have begun : tables.SameButNewIds (Ledger.mk tables draws).tables (Ledger.mk tables again).tables :=
    .refl tables
  have entered := begun.enterAll (settingsEntries game.settings)
  rw [← ledger_prepare options assets tables draws game,
    ← ledger_prepare options assets tables again game] at entered
  exact entered

/-- Runs that draw different identifiers go on side by side. -/
theorem together_redrawn (images : surroundings.SeesImagesOnly) :
    ((Plan.ofGame options surroundings digest game).idsApart tables storage.working).Together
      (Progress.start options (surroundings.assets storage.disk) tables draws storage game)
      (Progress.start options (surroundings.assets storage.disk) tables again storage game) 0
      game.scenes game.scenes
      (prepare options (surroundings.assets storage.disk) tables draws game).2 := by
  apply Likeness.Abreast.run
  · exact
      { contexts := (prepare_redrawn options tables draws again game _).1
        storages := .refl .same storage
        working := rfl
        seen := rfl
        saved := rfl
        aborted := rfl }
  · rw [List.forall₂_same]
    exact fun entry _ => .same images entry

theorem ofRun_result_congr (title : String) {run other : Progress × Bool}
    (saved : other.1.saved = run.1.saved) (aborted : other.1.aborted = run.1.aborted)
    (log : other.1.context.log = run.1.context.log) (cancelled : other.2 = run.2) :
    (Outcome.ofRun title other).result = (Outcome.ofRun title run).result := by
  simp only [Outcome.ofRun, saved, aborted, log, cancelled]

/-- What the runs over the scenes have in common. -/
theorem compileScenes_redrawn (images : surroundings.SeesImagesOnly) :
    (compileScenes options surroundings digest tables again storage game).result =
        (compileScenes options surroundings digest tables draws storage game).result ∧
      (compileScenes options surroundings digest tables again storage game).asked =
        (compileScenes options surroundings digest tables draws storage game).asked ∧
      (compileScenes options surroundings digest tables draws storage game).storage.disk.Matches
        (options.project.IdsApart storage.working tables)
        (compileScenes options surroundings digest tables again storage game).storage.disk ∧
      savedArtifacts (sceneSteps options surroundings digest tables again storage game) =
        savedArtifacts (sceneSteps options surroundings digest tables draws storage game) := by
  obtain ⟨last, cancelled, saved⟩ :=
    together_redrawn options digest tables draws again storage game images
  have actions := (prepare_redrawn options tables draws again game
    (surroundings.assets storage.disk)).2
  rw [compileScenes_eq_ofRun, compileScenes_eq_ofRun, sceneSteps_eq, sceneSteps_eq, actions]
  refine ⟨ofRun_result_congr _ last.saved last.aborted.symm ?_ cancelled, ?_,
    last.storages.disks, saved.trans (Plan.savedArtifacts_redigested ..)⟩
  · exact (congrArg View.log last.contexts.view).symm
  · exact (congrArg (fun view => view.core.asked) last.contexts.view).symm

end Games

/-- That two runs come to the same and leave the same files, apart from the identifiers of the sorting
layers that were added to the tables since the project was opened. -/
structure Outcome.SameButIds (project : ProjectFolder) (before : Storage)
    (outcome again : Outcome) : Prop where
  result : again.result = outcome.result
  asked : again.asked = outcome.asked
  buildList : again.storage.disk.get? (project.settingsPlace before.working buildListName) =
    outcome.storage.disk.get? (project.settingsPlace before.working buildListName)
  otherFiles : ∀ place, place ≠ project.settingsPlace before.working tablesName →
    place ≠ project.settingsPlace before.working (draftName tablesName) →
    again.storage.disk.get? place = outcome.storage.disk.get? place
  tables : ∀ made base opened, project.makeFolders before = (.ok (), made) →
    project.loadTables made = (.ok base, opened) →
    outcome.storage.disk.Matches (project.IdsApart before.working base) again.storage.disk

theorem Outcome.SameButIds.of_storage {project : ProjectFolder} {before : Storage}
    {outcome again : Outcome} (result : again.result = outcome.result)
    (asked : again.asked = outcome.asked) (storage : again.storage = outcome.storage) :
    outcome.SameButIds project before again where
  result := result
  asked := asked
  buildList := by rw [storage]
  otherFiles place _ _ := by rw [storage]
  tables made base opened _ _ := by
    rw [storage]
    exact .refl _ .same _

theorem Outcome.SameButIds.of_opened {project : ProjectFolder} {before made opened : Storage}
    {outcome again : Outcome} {base : Tables}
    (folders : project.makeFolders before = (.ok (), made))
    (loaded : project.loadTables made = (.ok base, opened))
    (result : again.result = outcome.result) (asked : again.asked = outcome.asked)
    (files : outcome.storage.disk.Matches (project.IdsApart before.working base)
      again.storage.disk) :
    outcome.SameButIds project before again where
  result := result
  asked := asked
  buildList := by
    refine (files.get?_eq fun bytes others agree => ?_).symm
    exact (project.tolerates_idsApart before.working base).buildList bytes others agree
  otherFiles place own draft := by
    refine (files.get?_eq fun bytes others agree => ?_).symm
    exact agree.eq_of_other project before.working base own draft
  tables first tables second remade reloaded := by
    rw [folders] at remade
    cases remade
    rw [loaded] at reloaded
    cases reloaded
    exact files

/-- The draws decide about the identifiers of new sorting layers and about nothing else.  Two runs of a
document that differ in the draws only come to the same report, or fail in the same way; they save the
same artifacts and leave the same list of scenes to build and the same other files; and their tables
hold the same names, those that were there before with the same identifiers. -/
theorem draws_decide_new_ids_only (options : Options) {surroundings : Surroundings}
    (images : surroundings.SeesImagesOnly) (draws again : Draws) (storage : Storage)
    (raw : String) :
    (compileGame options surroundings draws storage raw).SameButIds options.project storage
        (compileGame options surroundings again storage raw) ∧
      savedArtifacts (gameSteps options surroundings again storage raw) =
        savedArtifacts (gameSteps options surroundings draws storage raw) := by
  cases read : Game.read raw with
  | error rejection =>
      simp only [compileGame, gameSteps, read, and_true]
      exact .of_storage rfl rfl rfl
  | ok game =>
      rcases opening_cases options storage with
        ⟨fault, after, ends⟩ | ⟨made, tables, opened, folders, loaded⟩
      · obtain ⟨first, unstarted⟩ := ends surroundings draws raw game read
        obtain ⟨second, stopped⟩ := ends surroundings again raw game read
        rw [first, second, unstarted, stopped]
        exact ⟨.of_storage rfl rfl rfl, rfl⟩
      · obtain ⟨result, asked, files, saved⟩ := compileScenes_redrawn options
          (Sha256.hexDigest raw) tables draws again opened game images
        rw [compileGame_of_opened surroundings draws read folders loaded,
          compileGame_of_opened surroundings again read folders loaded,
          gameSteps_of_opened surroundings draws read folders loaded,
          gameSteps_of_opened surroundings again read folders loaded]
        rw [(ProjectFolder.keeps_opened folders loaded).working] at files
        exact ⟨.of_opened folders loaded result asked files, saved⟩

/-- A game with a sorting layer of its own. -/
def frontText : String :=
  "\x7b\"game\":\x7b\"settings\":\x7b\"sortingLayers\":[\"Front\"]\x7d," ++
    "\"scenes\":[\x7b\"name\":\"A\"\x7d]\x7d\x7d"

theorem draws_decide_new_ids_only_front :
    bareSurroundings.SeesImagesOnly ∧
      (compileGame plainOptions bareSurroundings plainDraws bareStorage frontText).SameButIds
        plainOptions.project bareStorage
        (compileGame plainOptions bareSurroundings ⟨fun _ => 2, 0⟩ bareStorage frontText) := by
  have images : bareSurroundings.SeesImagesOnly := Surroundings.seesImagesOnly_of_fixed _ _
  exact ⟨images, (draws_decide_new_ids_only plainOptions images plainDraws ⟨fun _ => 2, 0⟩
    bareStorage frontText).1⟩

end GameScenes.Build
