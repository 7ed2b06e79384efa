import GameScenes.Proofs.Build.Resumed
import GameScenes.Proofs.Build.SceneFaults
import GameScenes.Proofs.Project.SceneNames

/-!
# Scenes with one file

Two scenes have one file exactly if their names become the same safe name.  Of such scenes the run
keeps to the first that it comes to, and gives every later one up (`namesakes_given_up`).
-/

set_option autoImplicit false

namespace GameScenes.Build

open Document (Game SceneEntry SceneFault)
open Scene (ButtonAction)
open SceneFile (IsSafeName LiesDirectly relativePath safeName)
open Storage (Disk Place)

/-- Why a scene is given up whose file an earlier scene has. -/
def duplicateReason : String := "duplicate scene name"

/-- The error of a scene whose file an earlier scene has. -/
def duplicateError (scene : String) : Diagnostic :=
  .ofScene .duplicateSceneName scene "an earlier scene already writes to the same output file"

/-! ## One step -/

namespace SceneStep

variable (step : SceneStep)

/-- The scene of a step if an earlier scene has its file. -/
def namesake? : Option Document.Scene :=
  match step.entry with
  | .malformed _ => none
  | .parsed scene =>
      if step.before.seen.contains (relativePath scene.name) then some scene else none

/-- A step comes to a malformed scene, to a scene whose file is taken, or to one that is built. -/
inductive Kind : Prop
  | malformed (fault : SceneFault) (entry : step.entry = .malformed fault)
      (unbuilt : step.scene? = none) (fresh : step.namesake? = none)
  | taken (scene : Document.Scene) (entry : step.entry = .parsed scene)
      (unbuilt : step.scene? = none) (repeated : step.namesake? = some scene)
      (seen : relativePath scene.name ∈ step.before.seen)
  | new (scene : Document.Scene) (entry : step.entry = .parsed scene)
      (built : step.scene? = some scene) (fresh : step.namesake? = none)
      (unseen : relativePath scene.name ∉ step.before.seen)

theorem kind : step.Kind := by
  cases entry : step.entry with
  | malformed fault =>
      exact .malformed fault entry (by simp [scene?, entry]) (by simp [namesake?, entry])
  | parsed scene =>
      by_cases seen : relativePath scene.name ∈ step.before.seen
      · exact .taken scene entry (by simp [scene?, entry, seen]) (by simp [namesake?, entry, seen])
          seen
      · exact .new scene entry (by simp [scene?, entry, seen]) (by simp [namesake?, entry, seen])
          seen

theorem namesake?_eq_some_iff {scene : Document.Scene} :
    step.namesake? = some scene ↔
      step.entry = .parsed scene ∧ relativePath scene.name ∈ step.before.seen := by
  cases step.kind with
  | malformed fault entry _ fresh => simp [fresh, entry]
  | taken own entry _ repeated seen =>
      rw [repeated, entry]
      constructor
      · rintro ⟨rfl⟩
        exact ⟨rfl, seen⟩
      · rintro ⟨⟨rfl⟩, -⟩
        rfl
  | new own entry _ fresh unseen =>
      rw [fresh, entry]
      constructor
      · intro none
        cases none
      · rintro ⟨⟨rfl⟩, seen⟩
        exact absurd seen unseen

/-- After a step the paths that were seen are those from before and that of its scene. -/
theorem mem_seen_after (path : String) :
    path ∈ step.after.seen ↔ path ∈ step.before.seen ∨
      ∃ scene, step.entry = .parsed scene ∧ relativePath scene.name = path := by
  cases step.kind with
  | malformed fault entry unbuilt =>
      rw [(step.context_of_none unbuilt).2.2, entry]
      simp
  | taken scene entry unbuilt _ seen =>
      rw [(step.context_of_none unbuilt).2.2, entry]
      constructor
      · exact .inl
      · rintro (old | ⟨own, ⟨rfl⟩, rfl⟩)
        · exact old
        · exact seen
  | new scene entry built =>
      rw [(step.context_of_some built).2.2, entry, List.mem_cons]
      constructor
      · rintro (rfl | old)
        · exact .inr ⟨scene, rfl, rfl⟩
        · exact .inl old
      · rintro (old | ⟨own, ⟨rfl⟩, rfl⟩)
        · exact .inr old
        · exact .inl rfl

theorem aborted_of_push {gone : AbortedScene}
    (pushed : step.after.aborted = step.before.aborted.push gone) : step.aborted = [gone] := by
  unfold aborted
  rw [pushed]
  simp

/-- Among the scenes that a step gives up is its scene as one whose file is taken, if it is. -/
theorem filter_aborted :
    step.aborted.filter (·.reason == duplicateReason) =
      step.namesake?.toList.map fun scene => ⟨step.index, scene.name, duplicateReason⟩ := by
  cases step.kind with
  | malformed fault entry unbuilt fresh =>
      have after : step.after = step.before.abort step.index fault.name fault.text := by
        unfold after Plan.compileEntry
        rw [entry]
      have other : fault.text ≠ duplicateReason := by
        intro same
        have starts := congrArg (·.toList.head?) same
        simp [SceneFault.text, duplicateReason, String.toList_append] at starts
      rw [step.aborted_of_push (after ▸ Progress.abort_aborted ..), fresh]
      simpa using other
  | taken scene entry unbuilt repeated seen =>
      have after : step.after.aborted =
          step.before.aborted.push ⟨step.index, scene.name, duplicateReason⟩ := by
        unfold after Plan.compileEntry
        rw [entry]
        dsimp only
        rw [if_pos (List.contains_iff_mem.mpr seen), Progress.abort_aborted,
          Progress.fault_aborted]
        rfl
      rw [step.aborted_of_push after, repeated]
      simp
  | new scene entry built fresh =>
      rw [fresh]
      rcases Progress.keepScene_cases
          { step.before with
            seen := relativePath scene.name :: step.before.seen
            context := (step.build scene).1 }
          step.plan.project step.index scene.name (step.build scene).2 with
        ⟨saved, storage, -, same⟩ | ⟨cause, storage, -, same⟩
      · have none : step.aborted = [] := by
          unfold aborted
          rw [step.after_of_some built, same, Progress.keepTables_aborted]
          simp
        rw [none]
        rfl
      · have other : "failed to write scene: " ++ cause.message ≠ duplicateReason := by
          intro same
          have starts := congrArg (·.toList.head?) same
          simp [duplicateReason, String.toList_append] at starts
        rw [step.aborted_of_push ((step.after_of_some built).trans same ▸
          Progress.abort_aborted ..)]
        simpa using other

theorem mem_aborted_iff (index : Nat) (name : String) :
    ⟨index, name, duplicateReason⟩ ∈ step.aborted ↔
      step.index = index ∧ ∃ scene, step.namesake? = some scene ∧ scene.name = name := by
  have kept : ⟨index, name, duplicateReason⟩ ∈ step.aborted ↔
      ⟨index, name, duplicateReason⟩ ∈ step.aborted.filter (·.reason == duplicateReason) := by
    simp
  rw [kept, step.filter_aborted, List.mem_map]
  simp only [Option.mem_toList, AbortedScene.mk.injEq, and_true]
  constructor
  · rintro ⟨scene, repeated, position, rfl⟩
    exact ⟨position, scene, repeated, rfl⟩
  · rintro ⟨position, scene, repeated, rfl⟩
    exact ⟨scene, repeated, position, rfl⟩

/-- Among the faults of a step is that its scene's file is taken, if it is. -/
theorem filter_recorded :
    step.recorded.filter (·.code == .duplicateSceneName) =
      step.namesake?.toList.map fun scene => duplicateError scene.name := by
  obtain ⟨faults, features, -, whole⟩ := step.recorded_eq
  have none : (faults.map (Diagnostic.under step.entry.name)).filter
      (·.code == .duplicateSceneName) = [] := by
    rw [List.filter_eq_nil_iff]
    intro d member same
    obtain ⟨fault, inside, rfl⟩ := List.mem_map.mp member
    have feature := (features fault inside).code
    have code : fault.code = .duplicateSceneName := by simpa [Diagnostic.under] using same
    rw [code] at feature
    cases feature
  rw [whole, List.filter_append, none, List.nil_append]
  unfold errors
  cases step.kind with
  | malformed fault entry unbuilt fresh =>
      rw [entry, unbuilt, fresh]
      rfl
  | taken scene entry unbuilt repeated =>
      rw [entry, unbuilt, repeated]
      rfl
  | new scene entry built fresh =>
      rw [entry, built, fresh]
      dsimp only
      unfold ProjectFolder.keepingErrors ProjectFolder.tablesErrors
      split
      · split <;> rfl
      · rfl

end SceneStep

/-! ## Runs -/

/-- What was seen before a step of a run are the paths from its start and those of the scenes that
stand before the step's own. -/
theorem Plan.steps_seen (plan : Plan) (p : Progress) (index : Nat) (entries : List SceneEntry)
    (actions : List (List (Option ButtonAction))) {k : Nat} {step : SceneStep}
    (there : (plan.steps p index entries actions)[k]? = some step) :
    step.index = index + k ∧ entries[k]? = some step.entry ∧
      ∀ path, path ∈ step.before.seen ↔ path ∈ p.seen ∨
        ∃ j < k, ∃ scene, entries[j]? = some (.parsed scene) ∧
          relativePath scene.name = path := by
  induction entries generalizing p index actions k with
  | nil => simp [steps] at there
  | cons entry rest ih =>
      rw [steps_cons] at there
      split at there
      · simp at there
      · cases k with
        | zero =>
            rw [List.getElem?_cons_zero, Option.some.injEq] at there
            subst there
            exact ⟨rfl, rfl, by simp [stepAt]⟩
        | succ k =>
            obtain ⟨position, own, seen⟩ := ih _ _ _ there
            refine ⟨by omega, own, fun path => ?_⟩
            rw [seen, SceneStep.mem_seen_after, or_assoc, Nat.exists_lt_succ_left]
            simp [stepAt]

/-- That a document has a scene before a position whose name becomes the same safe name. -/
def TakenBefore (entries : List SceneEntry) (index : Nat) (name : String) : Prop :=
  ∃ j < index, ∃ other, entries[j]? = some (.parsed other) ∧ safeName other.name = safeName name

/-- The scenes of a run whose file is taken are those with an earlier scene of the same safe
name. -/
theorem exists_namesake_iff (plan : Plan) (p : Progress) (fresh : p.seen = [])
    (entries : List SceneEntry) (actions : List (List (Option ButtonAction))) (index : Nat)
    (name : String) :
    (∃ step ∈ plan.steps p 0 entries actions, step.index = index ∧
        ∃ scene, step.namesake? = some scene ∧ scene.name = name) ↔
      index < (plan.steps p 0 entries actions).length ∧
        ∃ scene, entries[index]? = some (.parsed scene) ∧ scene.name = name ∧
          TakenBefore entries index name := by
  constructor
  · rintro ⟨step, member, rfl, scene, repeated, rfl⟩
    obtain ⟨k, there⟩ := List.mem_iff_getElem?.mp member
    obtain ⟨position, own, seen⟩ := plan.steps_seen p 0 entries actions there
    obtain ⟨entry, taken⟩ := step.namesake?_eq_some_iff.mp repeated
    rw [Nat.zero_add] at position
    rw [seen, fresh] at taken
    rw [position]
    refine ⟨(List.getElem?_eq_some_iff.mp there).1, scene, entry ▸ own, rfl, ?_⟩
    obtain none | ⟨j, before, other, found, same⟩ := taken
    · cases none
    · exact ⟨j, before, other, found, SceneFile.relativePath_inj.mp same⟩
  · rintro ⟨inside, scene, found, rfl, j, before, other, earlier, same⟩
    have there := List.getElem?_eq_getElem inside
    obtain ⟨position, own, seen⟩ := plan.steps_seen p 0 entries actions there
    rw [Nat.zero_add] at position
    rw [found, Option.some.injEq] at own
    refine ⟨_, List.getElem_mem inside, position, scene, ?_, rfl⟩
    rw [SceneStep.namesake?_eq_some_iff, seen]
    exact ⟨own.symm, .inr ⟨j, before, other, earlier, SceneFile.relativePath_inj.mpr same⟩⟩

/-- Every name becomes a safe one, which stays as it is, and so every scene has a file of its own in
the folder of the scenes unless an earlier scene has the same safe name.  In this case, and in no
other, the run gives the scene up as a duplicate, and reports an error for it. -/
theorem namesakes_given_up :
    (∀ name, IsSafeName (safeName name) ∧ safeName (safeName name) = safeName name) ∧
    (∀ project working name, LiesDirectly project working name) ∧
    ∀ (options : Options) (surroundings : Surroundings) (draws : Draws) (storage : Storage)
      (raw : String) (report : Report),
      (compileGame options surroundings draws storage raw).result = .ok report →
      ∃ game, Game.read raw = .ok game ∧
        (report.cancelled = false →
          (gameSteps options surroundings draws storage raw).length = game.scenes.length) ∧
        (∀ index name, ⟨index, name, duplicateReason⟩ ∈ report.aborted ↔
          index < (gameSteps options surroundings draws storage raw).length ∧
            ∃ scene, game.scenes[index]? = some (.parsed scene) ∧ scene.name = name ∧
              TakenBefore game.scenes index name) ∧
        report.diagnostics.filter (·.code == .duplicateSceneName) =
          (report.aborted.filter (·.reason == duplicateReason)).map
            fun gone => duplicateError gone.name := by
  refine ⟨fun name => ⟨SceneFile.isSafeName_safeName name,
    SceneFile.safeName_of_isSafeName (SceneFile.isSafeName_safeName name)⟩,
    SceneFile.liesDirectly, ?_⟩
  intro options surroundings draws storage raw report reported
  have aborted := compileGame_aborted options surroundings draws storage raw
  rw [Outcome.aborted, Outcome.listed, reported] at aborted
  dsimp only at aborted
  obtain ⟨game, made, tables, opened, read, folders, loaded, run⟩ := opened_of_reported reported
  rw [run] at reported
  rw [gameSteps_of_opened surroundings draws read folders loaded] at aborted ⊢
  have recorded := compileScenes_diagnostics reported
  refine ⟨game, read, ?_, ?_, ?_⟩
  · obtain ⟨ended, same, outcome⟩ := compileScenes_eq options surroundings (Sha256.hexDigest raw)
      tables draws opened game
    rw [outcome] at reported
    cases reported
    obtain ⟨outcomes, -, length, -, whole, -⟩ :=
      (Plan.ofGame options surroundings (Sha256.hexDigest raw) game).compileEntries_advances
        (Progress.start options (surroundings.assets opened.disk) tables draws opened game) 0
        game.scenes (prepare options (surroundings.assets opened.disk) tables draws game).2
    rw [same] at whole
    intro finished
    exact length.symm.trans (whole finished)
  · intro index name
    rw [aborted, List.mem_flatMap, sceneSteps_eq, ← exists_namesake_iff _ _ rfl]
    simp only [SceneStep.mem_aborted_iff]
  · have before := featured_prepare options (surroundings.assets opened.disk) tables draws game
    rw [recorded, aborted, List.filter_append, List.filter_eq_nil_iff.mpr, List.nil_append,
      List.filter_flatMap, List.filter_flatMap, List.map_flatMap]
    · simp only [SceneStep.filter_recorded, SceneStep.filter_aborted, List.map_map,
        Function.comp_def]
    · intro d member same
      have code : d.code = .duplicateSceneName := by simpa using same
      have feature := before d member
      rw [code] at feature
      cases feature

/-- A game with two scenes whose names differ in what their file names do not show. -/
def markedText : String :=
  "\x7b\"game\":\x7b\"scenes\":[\x7b\"name\":\"A?\"\x7d,\x7b\"name\":\" A!\"\x7d]\x7d\x7d"

/-- The second scene is given up, although it has another name. -/
theorem namesakes_given_up_marked :
    safeName "A?" = "A_" ∧ safeName " A!" = "A_" ∧
      ∃ report, (compileGame plainOptions bareSurroundings plainDraws
          (Storage.start Disk.empty [] fun _ => none) markedText).result = .ok report ∧
        report.aborted = [⟨1, " A!", duplicateReason⟩] ∧
        ∃ game, Game.read markedText = .ok game ∧ TakenBefore game.scenes 1 " A!" ∧
          report.diagnostics.filter (·.code == .duplicateSceneName) = [duplicateError " A!"] := by
  refine ⟨by decide +kernel, by decide +kernel, ?_⟩
  have facts : (compileGame plainOptions bareSurroundings plainDraws
      (Storage.start Disk.empty [] fun _ => none) markedText).result.toOption.any (fun report =>
        report.aborted == [⟨1, " A!", duplicateReason⟩]) = true := by decide +kernel
  cases reported : (compileGame plainOptions bareSurroundings plainDraws
      (Storage.start Disk.empty [] fun _ => none) markedText).result with
  | error cause =>
      rw [reported] at facts
      cases facts
  | ok report =>
      rw [reported] at facts
      have aborted : report.aborted = [⟨1, " A!", duplicateReason⟩] := by
        simpa [Except.toOption] using facts
      obtain ⟨-, -, runs⟩ := namesakes_given_up
      obtain ⟨game, read, -, duplicates, errors⟩ := runs _ _ _ _ _ report reported
      obtain ⟨-, scene, -, -, taken⟩ := (duplicates 1 " A!").mp (by simp [aborted])
      rw [aborted] at errors
      exact ⟨report, rfl, aborted, game, read, taken, errors⟩

end GameScenes.Build
