import GameScenes.Proofs.Build.Entries
import GameScenes.Proofs.Build.Recompiled
import GameScenes.Proofs.Project.Parallel

/-!
# Two runs side by side

Two runs of one plan, for documents with different digests or with different draws, stay related
when every step keeps the relation.  What has to be kept is named in `Likeness`: a relation of the
contexts which fixes all that building reads, and a relation of the files which leaves alone what
is read back.  As long as the scenes of the two documents pair up (`Likeness.Pairs`) the runs come to
the same scenes, save the same artifacts apart from the digest, and are cancelled at the same
scene (`Abreast.run`).
-/

set_option autoImplicit false

namespace GameScenes

/-- An artifact with the digest of another document. -/
def Scene.Artifact.redigested (artifact : Scene.Artifact) (digest : String) : Scene.Artifact :=
  { artifact with sourceDigest := digest }

namespace Build

open Document (Game SceneEntry)
open ProjectFolder (sceneBytes tablesBytes tablesName)
open Scene (Artifact ButtonAction)
open Storage (Agree Disk Fits Nearness Parallel Place placeOf)

/-! ## Stores -/

/-- That a store answers the same for disks on which at most files without the name of an image have
different contents. -/
def Surroundings.SeesImagesOnly (surroundings : Surroundings) : Prop :=
  ∀ disk other : Disk, disk.Matches sameImages other →
    surroundings.assets disk = surroundings.assets other

theorem Surroundings.seesImagesOnly_of_fixed (store : AssetStore)
    (cancelled : Nat → List AssetCandidate → Bool) :
    (Surroundings.mk (fun _ => store) cancelled).SeesImagesOnly := fun _ _ _ => rfl

theorem Surroundings.seesImagesOnly_of_folders (folders : AssetFolders) (working : Place)
    (cancelled : Nat → List AssetCandidate → Bool) :
    (Surroundings.mk (fun disk => folders.store disk working) cancelled).SeesImagesOnly :=
  fun _ _ disks => folders.store_of_matches disks working

/-! ## Plans -/

namespace Plan

variable {p : Progress} {index : Nat}

theorem run_of_cancelled (plan : Plan)
    (stop : plan.surroundings.cancelled index p.context.asked = true) (entry : SceneEntry)
    (rest : List SceneEntry) (actions : List (List (Option ButtonAction))) :
    plan.compileEntries p index (entry :: rest) actions = (p, true) ∧
      plan.steps p index (entry :: rest) actions = [] :=
  ⟨if_pos stop, if_pos stop⟩

theorem run_of_continued (plan : Plan)
    (going : ¬ plan.surroundings.cancelled index p.context.asked = true) (entry : SceneEntry)
    (rest : List SceneEntry) (actions : List (List (Option ButtonAction))) :
    plan.compileEntries p index (entry :: rest) actions =
        plan.compileEntries (plan.stepAt p index entry actions).after (index + 1) rest
          actions.tail ∧
      plan.steps p index (entry :: rest) actions = plan.stepAt p index entry actions ::
        plan.steps (plan.stepAt p index entry actions).after (index + 1) rest actions.tail :=
  ⟨if_neg going, if_neg going⟩

end Plan

/-- The plan of a document with another digest. -/
def Plan.redigested (plan : Plan) (digest : String) : Plan :=
  { plan with provenance := { plan.provenance with sourceDigest := digest } }

/-- Contexts with the same core and layers build a scene as the same artifact, each with the digest of
its document. -/
theorem compileScene_redigested {c d : Context} (same : c.core = d.core)
    (layers : c.layers = d.layers) (plan : Plan) (digest : String) (scene : Document.Scene)
    (actions : List (Option ButtonAction)) :
    (compileScene d scene (plan.redigested digest).tilesets actions
        (plan.redigested digest).provenance).2 =
      (compileScene c scene plan.tilesets actions plan.provenance).2.redigested digest := by
  rw [compileScene_congr same layers]
  rfl

/-- Contexts with the same core enter the same names while a scene is built, each into its own
tables. -/
theorem entries_compileScene {c d : Context} (same : c.core = d.core) (scene : Document.Scene)
    (tilesets : List Document.Tileset) (actions : List (Option ButtonAction))
    (provenance : Provenance) :
    ∃ entries,
      (compileScene c scene tilesets actions provenance).1.ledger = c.ledger.enterAll entries ∧
        (compileScene d scene tilesets actions provenance).1.ledger = d.ledger.enterAll entries := by
  have alike : Alike c d := (Alike.mk rfl rfl (.refl d.assets)).mono same rfl
  exact (together_compileScene alike scene tilesets actions actions provenance).entries

/-! ## What is kept -/

/-- How two runs of a plan may differ, the second one for a document with another digest.  Their
contexts are related in a way that fixes what is built and that everything which happens to both of
them keeps; the files of their projects may differ where neither of them looks. -/
structure Likeness (plan : Plan) (digest : String) (working : Place) where
  contexts : Context → Context → Prop
  aborted : Array AbortedScene → Array AbortedScene → Prop
  near : Nearness
  core {c d : Context} : contexts c d → c.core = d.core
  layers {c d : Context} : contexts c d → c.layers = d.layers
  located {c d : Context} (assets : AssetStore) : contexts c d →
    contexts { c with assets } { d with assets }
  faulted {c d : Context} (scene : String) (fault : Diagnostic) : contexts c d →
    contexts ((c.enterScene scene).record fault).leaveScene
      ((d.enterScene scene).record fault).leaveScene
  built {c d : Context} (scene : Document.Scene) (actions : List (Option ButtonAction)) :
    contexts c d → contexts (compileScene c scene plan.tilesets actions plan.provenance).1
      (compileScene d scene plan.tilesets actions plan.provenance).1
  pushed {xs ys : Array AbortedScene} (scene : AbortedScene) : aborted xs ys →
    aborted (xs.push scene) (ys.push scene)
  tolerates : plan.project.Tolerates near working
  scenes (artifact : Artifact) : artifact.sourceDigest = plan.provenance.sourceDigest →
    Fits near (placeOf working plan.project.scenesFolder) (SceneFile.fileName artifact.name)
      (sceneBytes artifact) (sceneBytes (artifact.redigested digest))
  tables {c d : Context} : contexts c d →
    Fits near (placeOf working plan.project.settingsFolder) tablesName (tablesBytes c.tables)
      (tablesBytes d.tables)

variable {plan : Plan} {digest : String} {working : Place} {p q : Progress}

namespace Likeness

/-- That two runs have come equally far. -/
structure Abreast (like : Likeness plan digest working) (p q : Progress) : Prop where
  contexts : like.contexts p.context q.context
  storages : Parallel like.near p.storage q.storage
  working : p.storage.working = working
  seen : q.seen = p.seen
  saved : q.saved = p.saved
  aborted : like.aborted p.aborted q.aborted

variable {like : Likeness plan digest working}

namespace Abreast

theorem fault (abreast : like.Abreast p q) (scene : String) (d : Diagnostic) :
    like.Abreast (p.fault scene d) (q.fault scene d) :=
  { abreast with contexts := like.faulted scene _ abreast.contexts }

theorem abort (abreast : like.Abreast p q) (index : Nat) (name reason : String) :
    like.Abreast (p.abort index name reason) (q.abort index name reason) :=
  { abreast.fault name (Diagnostic.error .sceneAborted reason) with
    aborted := like.pushed _ abreast.aborted }

/-- The tables are kept in both projects, or the same fault is recorded in both runs. -/
theorem keepTables (abreast : like.Abreast p q) (scene : String) :
    like.Abreast (p.keepTables plan.project scene) (q.keepTables plan.project scene) := by
  have fits : Fits like.near (placeOf p.storage.working plan.project.settingsFolder) tablesName
      (tablesBytes p.context.tables) (tablesBytes q.context.tables) := by
    rw [abreast.working]
    exact like.tables abreast.contexts
  have stored := ProjectFolder.saveTables_agree abreast.storages fits
  have stays := (ProjectFolder.keeps_saveTables plan.project p.context.tables p.storage).working
  unfold Progress.keepTables
  generalize plan.project.saveTables p.context.tables p.storage = left at stored stays ⊢
  generalize plan.project.saveTables q.context.tables q.storage = right at stored ⊢
  have working := stays.trans abreast.working
  cases stored with
  | @done kept s t both => exact { abreast with storages := both, working }
  | @failed cause s t both =>
      have now : like.Abreast { p with storage := s } { q with storage := t } :=
        { abreast with storages := both, working }
      exact now.fault scene _

/-- A scene is saved in both runs or in neither of them. -/
theorem saveScene (abreast : like.Abreast p q) (artifact : Artifact)
    (own : artifact.sourceDigest = plan.provenance.sourceDigest) :
    Agree like.near like.near (plan.project.saveScene artifact p.storage)
      (plan.project.saveScene (artifact.redigested digest) q.storage) := by
  have tolerates : plan.project.Tolerates like.near p.storage.working := by
    rw [abreast.working]
    exact like.tolerates
  have fits : Fits like.near (placeOf p.storage.working plan.project.scenesFolder)
      (SceneFile.fileName artifact.name) (sceneBytes artifact)
      (sceneBytes (artifact.redigested digest)) := by
    rw [abreast.working]
    exact like.scenes artifact own
  exact tolerates.saveScene abreast.storages rfl fits

/-- Keeping a scene keeps two runs abreast, and keeps it in both of them or in neither. -/
theorem keepScene (abreast : like.Abreast p q) (index : Nat) (scene : String)
    (artifact : Artifact) (own : artifact.sourceDigest = plan.provenance.sourceDigest) :
    like.Abreast (p.keepScene plan.project index scene artifact)
      (q.keepScene plan.project index scene (artifact.redigested digest)) := by
  have stored := abreast.saveScene artifact own
  have stays := plan.project.saveScene_working artifact p.storage
  unfold Progress.keepScene
  generalize plan.project.saveScene artifact p.storage = left at stored stays ⊢
  generalize plan.project.saveScene (artifact.redigested digest) q.storage = right at stored ⊢
  have working := stays.trans abreast.working
  cases stored with
  | @done kept s t both =>
      have saved : q.saved.push kept = p.saved.push kept := by rw [abreast.saved]
      have now : like.Abreast { p with storage := s, saved := p.saved.push kept }
          { q with storage := t, saved := q.saved.push kept } :=
        { abreast with storages := both, working, saved }
      exact now.keepTables scene
  | @failed cause s t both =>
      have now : like.Abreast { p with storage := s } { q with storage := t } :=
        { abreast with storages := both, working }
      exact (now.fault scene _).abort index scene _

end Abreast

/-! ## Steps -/

/-- That two runs which have come equally far stay abreast over a scene of each document, and save it
in both runs or in neither. -/
structure Pairs (like : Likeness plan digest working) (entry again : SceneEntry) : Prop where
  after {p q : Progress} (abreast : like.Abreast p q) (index : Nat)
    (actions : List (Option ButtonAction)) :
    like.Abreast (plan.compileEntry p index entry actions)
      ((plan.redigested digest).compileEntry q index again actions)
  saved {p q : Progress} (abreast : like.Abreast p q) (index : Nat)
    (actions : List (Option ButtonAction)) :
    (SceneStep.mk (plan.redigested digest) index again actions q).savedArtifact? =
      (SceneStep.mk plan index entry actions p).savedArtifact?.map (·.redigested digest)

namespace Abreast

/-- The context in which a scene is built. -/
theorem located (images : plan.surroundings.SeesImagesOnly) (abreast : like.Abreast p q) :
    like.contexts { p.context with assets := plan.surroundings.assets p.storage.disk }
      { q.context with assets := plan.surroundings.assets q.storage.disk } := by
  -- the files in which the disks may differ are no images, so the store answers the same
  have disks := abreast.storages.disks.mono like.tolerates.images
  rw [images _ _ disks]
  exact like.located _ abreast.contexts

theorem build_redigested (images : plan.surroundings.SeesImagesOnly) (abreast : like.Abreast p q)
    (index : Nat) (entry : SceneEntry) (actions : List (Option ButtonAction))
    (scene : Document.Scene) :
    ((SceneStep.mk (plan.redigested digest) index entry actions q).build scene).2 =
      ((SceneStep.mk plan index entry actions p).build scene).2.redigested digest :=
  have located := abreast.located images
  compileScene_redigested (like.core located) (like.layers located) plan digest scene actions

theorem compileNew (images : plan.surroundings.SeesImagesOnly) (abreast : like.Abreast p q)
    (index : Nat) (scene : Document.Scene) (actions : List (Option ButtonAction)) :
    like.Abreast (plan.compileNew p index scene actions)
      ((plan.redigested digest).compileNew q index scene actions) := by
  have located := abreast.located images
  have artifact := abreast.build_redigested images index (.parsed scene) actions scene
  unfold Plan.compileNew
  dsimp only [SceneStep.build] at artifact ⊢
  rw [artifact]
  apply keepScene _ index scene.name _ rfl
  exact { abreast with contexts := like.built scene actions located }

end Abreast

/-- A scene pairs up with itself. -/
theorem Pairs.same (images : plan.surroundings.SeesImagesOnly) (entry : SceneEntry) :
    like.Pairs entry entry where
  after {p q} abreast index actions := by
    cases entry with
    | malformed fault => exact abreast.abort index fault.name fault.text
    | parsed scene =>
        unfold Plan.compileEntry
        dsimp only
        rw [abreast.seen]
        split
        · exact (abreast.fault scene.name _).abort index scene.name _
        · have now : like.Abreast
              { p with seen := SceneFile.relativePath scene.name :: p.seen }
              { q with seen := SceneFile.relativePath scene.name :: p.seen } :=
            { abreast with seen := rfl }
          exact now.compileNew images index scene actions
  saved {p q} abreast index actions := by
    have scenes : (SceneStep.mk (plan.redigested digest) index entry actions q).scene? =
        (SceneStep.mk plan index entry actions p).scene? := by
      simp only [SceneStep.scene?, abreast.seen]
    unfold SceneStep.savedArtifact?
    rw [scenes]
    cases (SceneStep.mk plan index entry actions p).scene? with
    | none => rfl
    | some scene =>
        dsimp only
        rw [abreast.build_redigested images]
        have stored := abreast.saveScene
          ((SceneStep.mk plan index entry actions p).build scene).2 rfl
        rw [show (plan.redigested digest).project = plan.project from rfl, stored.result]
        generalize (plan.project.saveScene _ p.storage).1 = result
        cases result <;> rfl

/-! ## Runs -/

/-- How two runs go on side by side: they stay abreast, they save the same artifacts apart from the
digest, and they are cancelled at the same scene. -/
structure Together (like : Likeness plan digest working) (p q : Progress) (index : Nat)
    (entries others : List SceneEntry) (actions : List (List (Option ButtonAction))) : Prop where
  last : like.Abreast (plan.compileEntries p index entries actions).1
    ((plan.redigested digest).compileEntries q index others actions).1
  cancelled : ((plan.redigested digest).compileEntries q index others actions).2 =
    (plan.compileEntries p index entries actions).2
  saved : savedArtifacts ((plan.redigested digest).steps q index others actions) =
    (savedArtifacts (plan.steps p index entries actions)).map (·.redigested digest)

/-- Runs over scenes that pair up go on side by side. -/
theorem Abreast.run {entries others : List SceneEntry} (abreast : like.Abreast p q)
    (pairs : List.Forall₂ like.Pairs entries others) (index : Nat)
    (actions : List (List (Option ButtonAction))) :
    like.Together p q index entries others actions := by
  induction pairs generalizing p q index actions with
  | nil => exact ⟨abreast, rfl, rfl⟩
  | @cons entry again rest remaining first _ ih =>
      -- whether a run is cancelled depends on what was asked for, which is part of the core
      have same : (plan.redigested digest).surroundings.cancelled index q.context.asked =
          plan.surroundings.cancelled index p.context.asked :=
        congrArg (plan.surroundings.cancelled index)
          (congrArg Core.asked (like.core abreast.contexts)).symm
      by_cases stop : plan.surroundings.cancelled index p.context.asked = true
      · obtain ⟨left, ended⟩ := plan.run_of_cancelled stop entry rest actions
        obtain ⟨right, stopped⟩ := (plan.redigested digest).run_of_cancelled (same.trans stop) again
          remaining actions
        refine ⟨?_, ?_, ?_⟩
        · rw [left, right]
          exact abreast
        · rw [left, right]
        · rw [ended, stopped]
          rfl
      · obtain ⟨left, goes⟩ := plan.run_of_continued stop entry rest actions
        obtain ⟨right, proceeds⟩ := (plan.redigested digest).run_of_continued (same ▸ stop) again
          remaining actions
        have now := first.after abreast index (actions.head?.getD [])
        have kept := first.saved abreast index (actions.head?.getD [])
        obtain ⟨last, cancelled, saved⟩ := ih now (index + 1) actions.tail
        refine ⟨?_, ?_, ?_⟩
        · rw [left, right]
          exact last
        · rw [left, right]
          exact cancelled
        · rw [goes, proceeds]
          unfold savedArtifacts at saved ⊢
          unfold Plan.stepAt
          rw [List.filterMap_cons, List.filterMap_cons, kept]
          cases (SceneStep.mk plan index entry (actions.head?.getD []) p).savedArtifact? with
          | none => exact saved
          | some artifact => exact congrArg (artifact.redigested digest :: ·) saved

end Likeness

/-! ## Games -/

/-- A project cannot be opened, and then no document is compiled into it, or it is opened with some
tables. -/
theorem opening_cases (options : Options) (storage : Storage) :
    (∃ fault after, ∀ surroundings draws raw game, Game.read raw = .ok game →
      compileGame options surroundings draws storage raw = ⟨.error fault, after, draws, []⟩ ∧
        gameSteps options surroundings draws storage raw = []) ∨
    ∃ made tables opened, options.project.makeFolders storage = (.ok (), made) ∧
      options.project.loadTables made = (.ok tables, opened) := by
  cases folders : options.project.makeFolders storage with
  | mk done made =>
      cases done with
      | error fault =>
          refine .inl ⟨.output fault, made, ?_⟩
          intro surroundings draws raw game read
          simp only [compileGame, gameSteps, read, folders, and_self]
      | ok done =>
          cases loaded : options.project.loadTables made with
          | mk found opened =>
              cases found with
              | error fault =>
                  refine .inl ⟨.output fault, opened, ?_⟩
                  intro surroundings draws raw game read
                  simp only [compileGame, gameSteps, read, folders, loaded, and_self]
              | ok tables => exact .inr ⟨made, tables, opened, rfl, loaded⟩

/-- What a run over the scenes of a game comes to. -/
def Outcome.ofRun (title : String) (run : Progress × Bool) : Outcome where
  result := .ok
    { title
      saved := run.1.saved.toList
      aborted := run.1.aborted.toList
      diagnostics := run.1.context.log.entries.toList
      cancelled := run.2 }
  storage := run.1.storage
  draws := run.1.context.draws
  asked := run.1.context.asked

theorem compileScenes_eq_ofRun (options : Options) (surroundings : Surroundings) (digest : String)
    (tables : Tables) (draws : Draws) (storage : Storage) (game : Game) :
    compileScenes options surroundings digest tables draws storage game =
      .ofRun game.title ((Plan.ofGame options surroundings digest game).compileEntries
        (Progress.start options (surroundings.assets storage.disk) tables draws storage game) 0
        game.scenes
        (prepare options (surroundings.assets storage.disk) tables draws game).2) := rfl

end Build

end GameScenes
