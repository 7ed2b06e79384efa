import GameScenes.Proofs.Build.Abandoned
import GameScenes.Proofs.Build.Faults

/-!
# What a report accounts for

Every scene that a run comes to is either saved or given up, and the report lists it once, under
its position in the document (`compileGame_accounts`).  A run that is cancelled reports the
beginning of what the same run reports when nobody cancels it.
-/

set_option autoImplicit false

namespace GameScenes.Build

open Document (Game SceneEntry)
open Scene (Artifact ButtonAction)
open Storage (Disk)

/-- The error under which a report lists a scene that was given up. -/
def AbortedScene.diagnostic (gone : AbortedScene) : Diagnostic :=
  { Diagnostic.error .sceneAborted gone.reason with
    scene := some gone.name
    value := some gone.name }

/-- What becomes of a scene that a run comes to. -/
inductive SceneOutcome where
  | saved (scene : SavedScene)
  | aborted (scene : AbortedScene)

namespace SceneOutcome

def saved? : SceneOutcome → Option SavedScene
  | saved scene => some scene
  | aborted _ => none

def aborted? : SceneOutcome → Option AbortedScene
  | saved _ => none
  | aborted scene => some scene

/-- That an outcome is one of the scene at a position of the document. -/
def Settles (index : Nat) (entry : SceneEntry) : SceneOutcome → Prop
  | saved kept => ∃ scene, entry = .parsed scene ∧ kept.name = scene.name ∧
      kept.relativePath = SceneFile.relativePath scene.name
  | aborted gone => gone.index = index ∧
      match entry with
      | .parsed scene => gone.name = scene.name
      | .malformed fault => gone.name = fault.name ∧ gone.reason = fault.text

end SceneOutcome

/-- The paths of the files that are saved. -/
def savedPaths (outcomes : List SceneOutcome) : List String :=
  (outcomes.filterMap SceneOutcome.saved?).map (·.relativePath)

theorem savedPaths_append (xs ys : List SceneOutcome) :
    savedPaths (xs ++ ys) = savedPaths xs ++ savedPaths ys := by
  simp [savedPaths]

theorem savedPaths_saved (kept : SavedScene) :
    savedPaths [.saved kept] = [kept.relativePath] := rfl

theorem savedPaths_aborted (gone : AbortedScene) : savedPaths [.aborted gone] = [] := rfl

/-- How a run gets from one point to another while these scenes are saved and given up. -/
structure Advances (before after : Progress) (outcomes : List SceneOutcome) : Prop where
  saved : after.saved.toList = before.saved.toList ++ outcomes.filterMap SceneOutcome.saved?
  aborted : after.aborted.toList =
    before.aborted.toList ++ outcomes.filterMap SceneOutcome.aborted?
  seen : before.seen ⊆ after.seen
  fresh : ∀ path ∈ savedPaths outcomes, path ∉ before.seen ∧ path ∈ after.seen
  distinct : (savedPaths outcomes).Nodup
  faults : ∃ faults,
    after.context.log.entries.toList = before.context.log.entries.toList ++ faults ∧
      faults.filter (·.code == .sceneAborted) =
        (outcomes.filterMap SceneOutcome.aborted?).map AbortedScene.diagnostic

namespace Advances

variable {p q r : Progress} {xs ys : List SceneOutcome}

/-- Nothing is saved and nothing given up. -/
theorem idle (saved : q.saved = p.saved) (aborted : q.aborted = p.aborted)
    (seen : p.seen ⊆ q.seen) {faults : List Diagnostic}
    (log : q.context.log.entries.toList = p.context.log.entries.toList ++ faults)
    (codes : ∀ d ∈ faults, d.code ≠ .sceneAborted) : Advances p q [] where
  saved := by simp [saved]
  aborted := by simp [aborted]
  seen := seen
  fresh := by simp [savedPaths]
  distinct := by simp [savedPaths]
  faults := by
    refine ⟨faults, log, ?_⟩
    simpa using codes

theorem stored (p : Progress) (storage : Storage) : Advances p { p with storage } [] := by
  have log : p.context.log.entries.toList = p.context.log.entries.toList ++ [] :=
    (List.append_nil _).symm
  exact idle rfl rfl (List.Subset.refl p.seen) log (by simp)

theorem refl (p : Progress) : Advances p p [] := stored p p.storage

theorem trans (first : Advances p q xs) (second : Advances q r ys) :
    Advances p r (xs ++ ys) := by
  refine ⟨?_, ?_, ?_, ?_, ?_, ?_⟩
  · rw [second.saved, first.saved, List.filterMap_append, List.append_assoc]
  · rw [second.aborted, first.aborted, List.filterMap_append, List.append_assoc]
  · exact fun known there => second.seen (first.seen there)
  · intro path member
    rw [savedPaths_append] at member
    rcases List.mem_append.mp member with early | late
    · obtain ⟨new, seen⟩ := first.fresh path early
      exact ⟨new, second.seen seen⟩
    · obtain ⟨new, seen⟩ := second.fresh path late
      exact ⟨fun old => new (first.seen old), seen⟩
  · rw [savedPaths_append, List.nodup_append]
    refine ⟨first.distinct, second.distinct, ?_⟩
    rintro path early _ late rfl
    exact (second.fresh path late).1 (first.fresh path early).2
  · obtain ⟨ds, firstLog, firstCodes⟩ := first.faults
    obtain ⟨es, secondLog, secondCodes⟩ := second.faults
    refine ⟨ds ++ es, ?_, ?_⟩
    · rw [secondLog, firstLog, List.append_assoc]
    · rw [List.filter_append, firstCodes, secondCodes, List.filterMap_append, List.map_append]

theorem saved_prefix (h : Advances p q xs) : p.saved.toList <+: q.saved.toList :=
  ⟨_, h.saved.symm⟩

theorem aborted_prefix (h : Advances p q xs) : p.aborted.toList <+: q.aborted.toList :=
  ⟨_, h.aborted.symm⟩

theorem log_prefix (h : Advances p q xs) :
    p.context.log.entries.toList <+: q.context.log.entries.toList := by
  obtain ⟨faults, log, -⟩ := h.faults
  exact ⟨faults, log.symm⟩

end Advances

/-! ## One scene -/

namespace Progress

variable (p : Progress) (project : ProjectFolder) (index : Nat) (scene : String)

theorem fault_log {d : Diagnostic} (h : d.scene = none) :
    (p.fault scene d).context.log.entries.toList =
      p.context.log.entries.toList ++ [{ d with scene := some scene, value := some scene }] := by
  simp [fault, Context.record, Context.enterScene, Context.leaveScene, DiagnosticLog.push,
    DiagnosticLog.locate, DiagnosticLog.enterScene, DiagnosticLog.leaveScene,
    Diagnostic.withValue, h]

theorem advances_fault (code : DiagnosticCode) (h : code ≠ .sceneAborted) (message : String) :
    Advances p (p.fault scene (Diagnostic.error code message)) [] := by
  refine Advances.idle rfl rfl (List.Subset.refl p.seen) (p.fault_log scene rfl) ?_
  intro d member
  rw [List.mem_singleton] at member
  rw [member]
  exact h

/-- Giving a scene up reports it and its error, once each. -/
theorem advances_abort (reason : String) :
    Advances p (p.abort index scene reason) [.aborted ⟨index, scene, reason⟩] where
  saved := (List.append_nil _).symm
  aborted := by
    rw [abort_aborted, Array.toList_push]
    rfl
  seen := List.Subset.refl _
  fresh := by simp [savedPaths_aborted]
  distinct := by simp [savedPaths_aborted]
  faults := ⟨_, p.fault_log scene rfl, rfl⟩

theorem advances_keepTables : Advances p (p.keepTables project scene) [] := by
  unfold keepTables
  split
  next storage _ => exact .stored p storage
  next cause storage _ =>
    have failed := advances_fault { p with storage } scene .outputFailed (by decide)
      cause.message
    exact (Advances.stored p storage).trans failed

end Progress

namespace Plan

variable (plan : Plan) (p : Progress) (index : Nat)

/-- A scene that is meant for a new path is saved under this path or given up. -/
theorem compileNew_advances (scene : Document.Scene) (actions : List (Option ButtonAction))
    (new : SceneFile.relativePath scene.name ∉ p.seen) :
    ∃ outcome : SceneOutcome, outcome.Settles index (.parsed scene) ∧
      Advances p (plan.compileNew
        { p with seen := SceneFile.relativePath scene.name :: p.seen } index scene actions)
        [outcome] := by
  obtain ⟨context, artifact, compiled⟩ : ∃ context artifact, compileScene
      { p.context with assets := plan.surroundings.assets p.storage.disk } scene plan.tilesets
        actions plan.provenance = (context, artifact) := ⟨_, _, rfl⟩
  obtain ⟨faults, features, log⟩ := compileScene_log
    { p.context with assets := plan.surroundings.assets p.storage.disk } scene plan.tilesets
    actions plan.provenance
  have name := compileScene_name
    { p.context with assets := plan.surroundings.assets p.storage.disk } scene plan.tilesets
    actions plan.provenance
  rw [compiled] at log name
  have entries : context.log.entries.toList = p.context.log.entries.toList ++
      faults.map (p.context.log.enterScene scene.name).locate := by
    rw [log]
    exact DiagnosticLog.pushAll_entries (p.context.log.enterScene scene.name) faults
  have codes : ∀ d ∈ faults.map (p.context.log.enterScene scene.name).locate,
      d.code ≠ .sceneAborted := by
    intro d member same
    obtain ⟨fault, inside, rfl⟩ := List.mem_map.mp member
    have feature := (features fault inside).code
    have code : fault.code = .sceneAborted := same
    rw [code] at feature
    cases feature
  have known : p.seen ⊆ SceneFile.relativePath scene.name :: p.seen := List.subset_cons_self _ _
  have whole : plan.compileNew { p with seen := SceneFile.relativePath scene.name :: p.seen } index
      scene actions = { p with seen := SceneFile.relativePath scene.name :: p.seen, context
        }.keepScene plan.project index scene.name artifact := by
    unfold compileNew
    dsimp only
    rw [compiled]
  rw [whole]
  rcases Progress.keepScene_cases
      { p with seen := SceneFile.relativePath scene.name :: p.seen, context } plan.project index
      scene.name artifact with ⟨kept, storage, success, same⟩ | ⟨cause, storage, -, same⟩
  · have path : kept.relativePath = SceneFile.relativePath scene.name := by
      rw [ProjectFolder.saveScene_relativePath success, name]
    rw [same]
    refine ⟨.saved kept, ⟨scene, rfl, (ProjectFolder.saveScene_name success).trans name, path⟩, ?_⟩
    have save : Advances p
        { p with
          seen := SceneFile.relativePath scene.name :: p.seen
          context, storage
          saved := p.saved.push kept } [.saved kept] := by
      refine ⟨Array.toList_push, (List.append_nil _).symm, known, ?_, ?_, _, entries, ?_⟩
      · intro other member
        rw [savedPaths_saved, List.mem_singleton, path] at member
        rw [member]
        exact ⟨new, List.mem_cons_self ..⟩
      · rw [savedPaths_saved]
        exact List.pairwise_singleton _ _
      · rw [List.filter_eq_nil_iff.mpr fun d member => by simpa using codes d member]
        rfl
    exact save.trans (Progress.advances_keepTables _ plan.project scene.name)
  · rw [same]
    refine ⟨.aborted ⟨index, scene.name, "failed to write scene: " ++ cause.message⟩,
      ⟨rfl, rfl⟩, ?_⟩
    have built : Advances p
        { p with seen := SceneFile.relativePath scene.name :: p.seen, context, storage } [] :=
      .idle rfl rfl known entries codes
    have failed := built.trans (Progress.advances_fault _ scene.name .outputFailed (by decide)
      cause.message)
    exact failed.trans (Progress.advances_abort _ index scene.name _)

/-- Of every scene that a run comes to, one entry is added to one of the two lists. -/
theorem compileEntry_advances (entry : SceneEntry) (actions : List (Option ButtonAction)) :
    ∃ outcome : SceneOutcome, outcome.Settles index entry ∧
      Advances p (plan.compileEntry p index entry actions) [outcome] := by
  unfold compileEntry
  cases entry with
  | malformed fault =>
      exact ⟨.aborted ⟨index, fault.name, fault.text⟩, ⟨rfl, rfl, rfl⟩,
        p.advances_abort index fault.name fault.text⟩
  | parsed scene =>
      dsimp only
      by_cases seen : p.seen.contains (SceneFile.relativePath scene.name) = true
      · rw [if_pos seen]
        have failed := p.advances_fault scene.name .duplicateSceneName (by decide)
          "an earlier scene already writes to the same output file"
        exact ⟨.aborted ⟨index, scene.name, "duplicate scene name"⟩, ⟨rfl, rfl⟩,
          failed.trans (Progress.advances_abort _ index scene.name "duplicate scene name")⟩
      · rw [if_neg seen]
        apply plan.compileNew_advances p index scene actions
        simpa using seen

/-! ## All scenes -/

/-- The scenes that a run comes to before it is cancelled, if it is, are settled in order. -/
theorem compileEntries_advances (entries : List SceneEntry)
    (actions : List (List (Option ButtonAction))) :
    ∃ outcomes : List SceneOutcome,
      Advances p (plan.compileEntries p index entries actions).1 outcomes ∧
      outcomes.length = (plan.steps p index entries actions).length ∧
      (∀ i, ∀ outcome : SceneOutcome, outcomes[i]? = some outcome →
        ∃ entry, entries[i]? = some entry ∧ outcome.Settles (index + i) entry) ∧
      ((plan.compileEntries p index entries actions).2 = false →
        outcomes.length = entries.length) ∧
      ((plan.compileEntries p index entries actions).2 = true →
        outcomes.length < entries.length ∧
          plan.surroundings.cancelled (index + outcomes.length)
            (plan.compileEntries p index entries actions).1.context.asked = true) := by
  induction entries generalizing p index actions with
  | nil => exact ⟨[], Advances.refl p, rfl, by simp, by simp, by simp [compileEntries]⟩
  | cons entry rest ih =>
      rw [compileEntries_cons, steps_cons]
      by_cases cancelled : plan.surroundings.cancelled index p.context.asked = true
      · rw [if_pos cancelled, if_pos cancelled]
        exact ⟨[], Advances.refl p, rfl, by simp, by simp, fun _ => ⟨by simp, cancelled⟩⟩
      · rw [if_neg cancelled, if_neg cancelled]
        obtain ⟨first, settled, step⟩ := plan.compileEntry_advances p index entry
          (actions.head?.getD [])
        obtain ⟨others, run, length, settle, whole, stopped⟩ :=
          ih (plan.stepAt p index entry actions).after (index + 1) actions.tail
        refine ⟨first :: others, step.trans run, ?_, ?_, ?_, ?_⟩
        · rw [List.length_cons, List.length_cons, length]
        · intro i outcome found
          cases i with
          | zero =>
              rw [List.getElem?_cons_zero, Option.some.injEq] at found
              subst found
              exact ⟨entry, rfl, settled⟩
          | succ i =>
              obtain ⟨other, present, own⟩ := settle i outcome found
              refine ⟨other, present, ?_⟩
              rwa [show index + (i + 1) = index + 1 + i by omega]
        · intro done
          rw [List.length_cons, List.length_cons, whole done]
        · intro ended
          obtain ⟨fewer, flag⟩ := stopped ended
          refine ⟨by simpa using fewer, ?_⟩
          rwa [List.length_cons, show index + (others.length + 1) = index + 1 + others.length by
            omega]

theorem not_cancelled_of_steps (entries : List SceneEntry)
    (actions : List (List (Option ButtonAction))) :
    ∀ step ∈ plan.steps p index entries actions,
      plan.surroundings.cancelled step.index step.before.context.asked = false := by
  induction entries generalizing p index actions with
  | nil => simp [steps]
  | cons entry rest ih =>
      intro step member
      rw [steps_cons] at member
      by_cases cancelled : plan.surroundings.cancelled index p.context.asked = true
      · simp [cancelled] at member
      · rw [if_neg cancelled] at member
        rcases List.mem_cons.mp member with rfl | later
        · exact Bool.eq_false_iff.mpr cancelled
        · exact ih _ _ _ step later

end Plan

/-! ## Runs that nobody cancels -/

def Surroundings.uncancelled (surroundings : Surroundings) : Surroundings :=
  { surroundings with cancelled := fun _ _ => false }

def Plan.uncancelled (plan : Plan) : Plan :=
  { plan with surroundings := plan.surroundings.uncancelled }

theorem Surroundings.assets_uncancelled (surroundings : Surroundings) :
    surroundings.uncancelled.assets = surroundings.assets := rfl

theorem Plan.ofGame_uncancelled (options : Options) (surroundings : Surroundings)
    (digest : String) (game : Game) :
    Plan.ofGame options surroundings.uncancelled digest game =
      (Plan.ofGame options surroundings digest game).uncancelled := rfl

/-- A run that nobody cancels goes on from where the same run was cancelled. -/
theorem Plan.advances_uncancelled (plan : Plan) (p : Progress) (index : Nat)
    (entries : List SceneEntry) (actions : List (List (Option ButtonAction))) :
    ∃ outcomes, Advances (plan.compileEntries p index entries actions).1
      (plan.uncancelled.compileEntries p index entries actions).1 outcomes := by
  induction entries generalizing p index actions with
  | nil => exact ⟨[], Advances.refl p⟩
  | cons entry rest ih =>
      by_cases cancelled : plan.surroundings.cancelled index p.context.asked = true
      · rw [compileEntries_cons, if_pos cancelled]
        obtain ⟨outcomes, run, -⟩ := plan.uncancelled.compileEntries_advances p index
          (entry :: rest) actions
        exact ⟨outcomes, run⟩
      · rw [compileEntries_cons, if_neg cancelled]
        exact ih (plan.stepAt p index entry actions).after (index + 1) actions.tail

theorem Plan.compileEntries_uncancelled (plan : Plan) (p : Progress) (index : Nat)
    (entries : List SceneEntry) (actions : List (List (Option ButtonAction))) :
    (plan.uncancelled.compileEntries p index entries actions).2 = false := by
  induction entries generalizing p index actions with
  | nil => rfl
  | cons entry rest ih => exact ih _ _ _

/-! ## Reports -/

/-- That a report lists what became of the first scenes of a document: each of them once, in order,
and each saved one under a path of its own. -/
structure Report.Accounts (report : Report) (entries : List SceneEntry)
    (outcomes : List SceneOutcome) : Prop where
  settled : ∀ index, ∀ outcome : SceneOutcome, outcomes[index]? = some outcome →
    ∃ entry, entries[index]? = some entry ∧ outcome.Settles index entry
  saved : report.saved = outcomes.filterMap SceneOutcome.saved?
  aborted : report.aborted = outcomes.filterMap SceneOutcome.aborted?
  distinct : (report.saved.map (·.relativePath)).Nodup
  errors : report.diagnostics.filter (·.code == .sceneAborted) =
    report.aborted.map AbortedScene.diagnostic

/-- That a report is the beginning of another one of the same game. -/
structure Report.Begins (report whole : Report) : Prop where
  saved : report.saved <+: whole.saved
  aborted : report.aborted <+: whole.aborted
  diagnostics : report.diagnostics <+: whole.diagnostics

/-- The report of a run that has come to its end or was cancelled. -/
def Progress.report (p : Progress) (title : String) (cancelled : Bool) : Report :=
  ⟨title, p.saved.toList, p.aborted.toList, p.context.log.entries.toList, cancelled⟩

theorem compileScenes_eq (options : Options) (surroundings : Surroundings) (digest : String)
    (tables : Tables) (draws : Draws) (storage : Storage) (game : Game) :
    ∃ run, (Plan.ofGame options surroundings digest game).compileEntries
        (Progress.start options (surroundings.assets storage.disk) tables draws storage game) 0
        game.scenes (prepare options (surroundings.assets storage.disk) tables draws game).2 = run ∧
      compileScenes options surroundings digest tables draws storage game =
        ⟨.ok (run.1.report game.title run.2), run.1.storage, run.1.context.draws,
          run.1.context.asked⟩ := ⟨_, rfl, rfl⟩

theorem Advances.accounts {p q : Progress} {outcomes : List SceneOutcome}
    (h : Advances p q outcomes) (featured : Featured p.context) (saved : p.saved = #[])
    (aborted : p.aborted = #[]) {entries : List SceneEntry}
    (settled : ∀ index, ∀ outcome : SceneOutcome, outcomes[index]? = some outcome →
      ∃ entry, entries[index]? = some entry ∧ outcome.Settles index entry)
    (title : String) (cancelled : Bool) :
    (q.report title cancelled).Accounts entries outcomes := by
  have savedAll : q.saved.toList = outcomes.filterMap SceneOutcome.saved? := by
    rw [h.saved, saved]
    exact List.nil_append _
  have abortedAll : q.aborted.toList = outcomes.filterMap SceneOutcome.aborted? := by
    rw [h.aborted, aborted]
    exact List.nil_append _
  refine ⟨settled, savedAll, abortedAll, ?_, ?_⟩
  · have distinct := h.distinct
    unfold savedPaths at distinct
    rwa [← savedAll] at distinct
  · obtain ⟨faults, log, errors⟩ := h.faults
    -- no scene is given up before the first one is built
    have before : p.context.log.entries.toList.filter (·.code == .sceneAborted) = [] := by
      rw [List.filter_eq_nil_iff]
      intro d member same
      have code : d.code = .sceneAborted := by simpa using same
      have feature := featured d member
      rw [code] at feature
      cases feature
    show q.context.log.entries.toList.filter _ = q.aborted.toList.map _
    rw [log, List.filter_append, before, errors, abortedAll]
    exact List.nil_append _

/-- A report accounts for every scene that its run came to, which are all scenes unless the run was
cancelled, and it is the beginning of the report of the same run without cancellation. -/
theorem compileGame_accounts {options : Options} {surroundings : Surroundings} {draws : Draws}
    {storage : Storage} {raw : String} {report : Report}
    (reported : (compileGame options surroundings draws storage raw).result = .ok report) :
    ∃ (game : Game) (outcomes : List SceneOutcome) (whole : Report), Game.read raw = .ok game ∧
      report.Accounts game.scenes outcomes ∧
      outcomes.length = (gameSteps options surroundings draws storage raw).length ∧
      (∀ step ∈ gameSteps options surroundings draws storage raw,
        surroundings.cancelled step.index step.before.context.asked = false) ∧
      (report.cancelled = false → outcomes.length = game.scenes.length) ∧
      (report.cancelled = true → outcomes.length < game.scenes.length ∧
        surroundings.cancelled outcomes.length
          (compileGame options surroundings draws storage raw).asked = true) ∧
      (compileGame options surroundings.uncancelled draws storage raw).result = .ok whole ∧
      whole.cancelled = false ∧ report.Begins whole := by
  obtain ⟨game, made, tables, opened, read, folders, loaded, run⟩ := opened_of_reported reported
  rw [run] at reported ⊢
  rw [gameSteps_of_opened surroundings draws read folders loaded, sceneSteps_eq,
    compileGame_of_opened surroundings.uncancelled draws read folders loaded]
  obtain ⟨ended, same, outcome⟩ := compileScenes_eq options surroundings (Sha256.hexDigest raw)
    tables draws opened game
  obtain ⟨finished, others, last⟩ := compileScenes_eq options surroundings.uncancelled
    (Sha256.hexDigest raw) tables draws opened game
  rw [outcome] at reported ⊢
  cases reported
  rw [last]
  obtain ⟨outcomes, advances, length, settled, whole, stopped⟩ :=
    (Plan.ofGame options surroundings (Sha256.hexDigest raw) game).compileEntries_advances
      (Progress.start options (surroundings.assets opened.disk) tables draws opened game) 0
      game.scenes (prepare options (surroundings.assets opened.disk) tables draws game).2
  obtain ⟨rest, later⟩ :=
    (Plan.ofGame options surroundings (Sha256.hexDigest raw) game).advances_uncancelled
      (Progress.start options (surroundings.assets opened.disk) tables draws opened game) 0
      game.scenes (prepare options (surroundings.assets opened.disk) tables draws game).2
  have uncancelled :=
    (Plan.ofGame options surroundings (Sha256.hexDigest raw) game).compileEntries_uncancelled
      (Progress.start options (surroundings.assets opened.disk) tables draws opened game) 0
      game.scenes (prepare options (surroundings.assets opened.disk) tables draws game).2
  rw [Plan.ofGame_uncancelled, Surroundings.assets_uncancelled] at others
  rw [same] at advances whole stopped later
  rw [others] at later uncancelled
  have featured := featured_prepare options (surroundings.assets opened.disk) tables draws game
  have accounts := advances.accounts featured rfl rfl (by simpa using settled) game.title ended.2
  have cancelled := Plan.not_cancelled_of_steps
    (Plan.ofGame options surroundings (Sha256.hexDigest raw) game)
    (Progress.start options (surroundings.assets opened.disk) tables draws opened game) 0
    game.scenes (prepare options (surroundings.assets opened.disk) tables draws game).2
  rw [Nat.zero_add] at stopped
  exact ⟨game, outcomes, _, read, accounts, length, cancelled, whole, stopped, rfl, uncancelled,
    later.saved_prefix, later.aborted_prefix, later.log_prefix⟩

/-- Of two scenes with one name, one is saved and one is given up. -/
theorem compileGame_accounts_namesakes :
    ∃ report, (compileGame plainOptions bareSurroundings plainDraws
        (Storage.start Disk.empty [] fun _ => none) namesakesText).result = .ok report ∧
      report.saved.length = 1 ∧ report.aborted.length = 1 ∧
      ∃ game outcomes, Game.read namesakesText = .ok game ∧
        report.Accounts game.scenes outcomes := by
  have counts : (compileGame plainOptions bareSurroundings plainDraws
      (Storage.start Disk.empty [] fun _ => none) namesakesText).result.toOption.any (fun report =>
        report.saved.length == 1 && report.aborted.length == 1) = true := by decide +kernel
  cases reported : (compileGame plainOptions bareSurroundings plainDraws
      (Storage.start Disk.empty [] fun _ => none) namesakesText).result with
  | error cause =>
      rw [reported] at counts
      cases counts
  | ok report =>
      rw [reported] at counts
      obtain ⟨game, outcomes, -, read, accounts, -⟩ := compileGame_accounts reported
      simp only [Except.toOption, Option.any_some, Bool.and_eq_true, beq_iff_eq] at counts
      exact ⟨report, rfl, counts.1, counts.2, game, outcomes, read, accounts⟩

end GameScenes.Build
