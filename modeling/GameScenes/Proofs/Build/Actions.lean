import GameScenes.Proofs.Build.Faults
import GameScenes.Proofs.Build.Registering

/-!
# Actions of a document

The actions of all elements are prepared before any scene is built.  Preparing passes over the
scenes that did not decode and over the elements without an action; still every element keeps its
place, and every action that is refused is one fault of its element (`prepareScenes_eq`).  On record
before are the faults that belong to no scene: of layers of the settings and of sections
(`prepare_log`).
-/

set_option autoImplicit false

namespace GameScenes

/-! ## Commands -/

namespace Behavior

open Document (Action)
open Scene (ButtonAction)

theorem mem_register {table : CommandTable} {added command : Command}
    (member : command ∈ (table.register added).commands) :
    command ∈ table.commands ∨ command = added := by
  rcases List.mem_append.mp member with old | new
  · exact .inl (List.mem_filter.mp old).1
  · exact .inr (List.mem_singleton.mp new)

/-- Every command of a table that was put together came with one of its names. -/
theorem mem_foldl_register {added : List Command} {table : CommandTable} {command : Command}
    (member : command ∈ (added.foldl CommandTable.register table).commands) :
    command ∈ table.commands ∨ command ∈ added := by
  induction added generalizing table with
  | nil => exact .inl member
  | cons first rest ih =>
      rcases ih member with here | later
      · rcases mem_register here with old | new
        · exact .inl old
        · exact .inr (List.mem_cons.mpr (.inl new))
      · exact .inr (List.mem_cons_of_mem _ later)

/-- An action is prepared when its command is known and takes all of its arguments and no others. -/
theorem CommandTable.prepare_eq_ok_iff {table : CommandTable} {sceneNames : List String}
    {action : Action} {prepared : ButtonAction} :
    table.prepare sceneNames action = .ok prepared ↔
      ∃ command values, table.find? action.command = some command ∧
        strayArgument? command action.args = none ∧
        coerceArguments command.name action.args Dictionary.empty command.params = .ok values ∧
        command.refusal values sceneNames = none ∧ prepared = ⟨command.name, values.entries⟩ := by
  constructor
  · intro accepted
    unfold CommandTable.prepare at accepted
    split at accepted
    · cases accepted
    next command found =>
      split at accepted
      · cases accepted
      next known =>
        split at accepted
        · cases accepted
        next values coerced =>
          split at accepted
          · cases accepted
          next accepts =>
            cases accepted
            exact ⟨command, values, found, known, coerced, accepts, rfl⟩
  · rintro ⟨command, values, found, known, coerced, accepts, rfl⟩
    simp only [CommandTable.prepare, found, known, coerced, accepts]

/-- A prepared action carries the name of a command of the table, which has taken its arguments. -/
theorem CommandTable.prepare_ok {table : CommandTable} {sceneNames : List String} {action : Action}
    {prepared : ButtonAction} (accepted : table.prepare sceneNames action = .ok prepared) :
    ∃ command ∈ table.commands, ∃ values, prepared = ⟨command.name, values.entries⟩ ∧
      coerceArguments command.name action.args Dictionary.empty command.params = .ok values ∧
      command.refusal values sceneNames = none := by
  obtain ⟨command, values, found, -, coerced, accepts, rfl⟩ := prepare_eq_ok_iff.mp accepted
  have member : command ∈ table.commands := by
    rcases Option.or_eq_some_iff.mp found with exact_ | ⟨-, alike⟩
    · exact List.mem_of_find?_eq_some exact_
    · exact List.mem_of_find?_eq_some alike
  exact ⟨command, member, values, rfl, coerced, accepts⟩

theorem requireScene_eq_none {values : Dictionary FieldValue} {sceneNames : List String}
    (accepts : requireScene values sceneNames = none) :
    ∃ scene ∈ sceneNames, values.get? "scene" = some (.text scene) := by
  unfold requireScene at accepts
  split at accepts
  next scene given =>
      split at accepts
      next known => exact ⟨scene, by simpa using known, given⟩
      next => cases accepts
  next => cases accepts

theorem coerceArguments_single {command : String} {args : List (String × Json)}
    {param : FieldSchema} {values : Dictionary FieldValue}
    (coerced : coerceArguments command args Dictionary.empty [param] = .ok values) :
    ∃ value, values.entries = [(param.name, value)] := by
  unfold coerceArguments at coerced
  split at coerced
  · cases coerced
  · split at coerced
    · cases coerced
    next value _ =>
        cases coerced
        exact ⟨value, rfl⟩

/-- An action that loads a scene names one that it was prepared for. -/
theorem prepare_loadScene {sceneNames : List String} {action : Action} {prepared : ButtonAction}
    (accepted : builtinCommands.prepare sceneNames action = .ok prepared)
    (loads : prepared.command = "LoadScene") :
    ∃ scene ∈ sceneNames, prepared.args = [("scene", .text scene)] := by
  obtain ⟨command, member, values, rfl, coerced, accepts⟩ := CommandTable.prepare_ok accepted
  dsimp only at loads
  rcases mem_foldl_register member with none | listed
  · cases none
  · have first : command = ⟨"LoadScene", [⟨"scene", .text⟩], requireScene⟩ := by
      simp only [List.mem_cons, List.not_mem_nil, or_false] at listed
      rcases listed with same | rfl | rfl | rfl
      · exact same
      all_goals simp at loads
    subst first
    obtain ⟨value, single⟩ := coerceArguments_single coerced
    obtain ⟨scene, known, given⟩ := requireScene_eq_none accepts
    unfold Dictionary.get? at given
    rw [single, List.lookup_cons_self] at given
    cases given
    exact ⟨scene, known, single⟩

end Behavior

namespace Build

open Behavior (CommandTable builtinCommands)
open Document (Action Element Game SceneEntry Settings)
open Scene (ButtonAction)

/-! ## What preparing comes to -/

section

variable (commands : CommandTable) (sceneNames : List String)

/-- The action of an element, if it has one and the action can be prepared. -/
def preparedAction? (element : Element) : Option ButtonAction :=
  element.onClick.bind fun action => (commands.prepare sceneNames action).toOption

/-- The fault of an element of a scene whose action is refused. -/
def actionFault? (scene : Document.Scene) (element : Element) : Option Diagnostic :=
  element.onClick.bind fun action =>
    match commands.prepare sceneNames action with
    | .ok _ => none
    | .error fault => some
        { code := commandFaultCode fault
          severity := .warning
          scene := some scene.name
          subject := some element.displayName
          field := some "onClick"
          value := some action.command
          message := fault.message }

/-- The prepared actions of a scene, each at the position of its element. -/
def entryActions : SceneEntry → List (Option ButtonAction)
  | .malformed _ => []
  | .parsed scene => scene.ui.map (preparedAction? commands sceneNames)

/-- The faults of the actions of a scene. -/
def entryFaults : SceneEntry → List Diagnostic
  | .malformed _ => []
  | .parsed scene => scene.ui.filterMap (actionFault? commands sceneNames scene)

end

variable {commands : CommandTable} {sceneNames : List String}

theorem scene_of_actionFault? {scene : Document.Scene} {element : Element} {d : Diagnostic}
    (fault : actionFault? commands sceneNames scene element = some d) :
    d.scene = some scene.name := by
  obtain ⟨action, -, refused⟩ := Option.bind_eq_some_iff.mp fault
  split at refused
  · cases refused
  · cases refused
    rfl

theorem locate_actionFault {log : DiagnosticLog} {scene : Document.Scene} {element : Element}
    {d : Diagnostic} (fault : actionFault? commands sceneNames scene element = some d) :
    log.locate d = d := by
  have located := scene_of_actionFault? fault
  unfold DiagnosticLog.locate
  rw [located, Option.some_or, ← located]

section

variable (sceneNames) (ctx : Context)

theorem prepareAction_eq {scene : Document.Scene} (within : ctx.log.scene = some scene.name)
    (element : Element) :
    prepareAction sceneNames ctx element =
      (ctx.recordAll (actionFault? ctx.commands sceneNames scene element).toList,
        preparedAction? ctx.commands sceneNames element) := by
  unfold prepareAction preparedAction? actionFault?
  cases element.onClick with
  | none => rfl
  | some action =>
      dsimp only
      rw [Option.bind_some, Option.bind_some]
      cases ctx.commands.prepare sceneNames action with
      | ok prepared => rfl
      | error fault =>
          -- the log puts the fault into the scene that is being worked on
          simp [Context.recordAll, Context.record, DiagnosticLog.pushAll, DiagnosticLog.push,
            DiagnosticLog.locate, Diagnostic.warning, Diagnostic.about, Diagnostic.inField,
            Diagnostic.withValue, within, Except.toOption]

theorem prepareElements_eq {scene : Document.Scene} (within : ctx.log.scene = some scene.name)
    (elements : List Element) :
    prepareElements sceneNames ctx elements =
      (ctx.recordAll (elements.filterMap (actionFault? ctx.commands sceneNames scene)),
        elements.map (preparedAction? ctx.commands sceneNames)) := by
  induction elements generalizing ctx with
  | nil => rfl
  | cons element rest ih =>
      have still : (ctx.recordAll
          (actionFault? ctx.commands sceneNames scene element).toList).log.scene =
            some scene.name := by
        rw [← within]
        exact DiagnosticLog.pushAll_scene ..
      unfold prepareElements
      rw [prepareAction_eq sceneNames ctx within element]
      dsimp only
      rw [ih _ still]
      have faults : (element :: rest).filterMap (actionFault? ctx.commands sceneNames scene) =
          (actionFault? ctx.commands sceneNames scene element).toList ++
            rest.filterMap (actionFault? ctx.commands sceneNames scene) := by
        rw [List.filterMap_cons]
        cases actionFault? ctx.commands sceneNames scene element <;> rfl
      rw [faults]
      unfold Context.recordAll
      rw [DiagnosticLog.pushAll_append]
      rfl

/-- Every scene of the document gets a list of actions, and every action that is refused one fault
of its scene. -/
theorem prepareScenes_eq (entries : List SceneEntry) :
    (prepareScenes sceneNames ctx entries).2 =
        entries.map (entryActions ctx.commands sceneNames) ∧
      (prepareScenes sceneNames ctx entries).1.log.entries.toList =
        ctx.log.entries.toList ++ entries.flatMap (entryFaults ctx.commands sceneNames) := by
  induction entries generalizing ctx with
  | nil => exact ⟨rfl, (List.append_nil _).symm⟩
  | cons entry rest ih =>
      cases entry with
      | malformed fault =>
          obtain ⟨actions, log⟩ := ih ctx
          unfold prepareScenes
          exact ⟨congrArg ([] :: ·) actions, log⟩
      | parsed scene =>
          have within : (ctx.enterScene scene.name).log.scene = some scene.name := rfl
          unfold prepareScenes
          rw [prepareElements_eq sceneNames (ctx.enterScene scene.name) within]
          obtain ⟨actions, log⟩ := ih ((ctx.enterScene scene.name).recordAll
            (entryFaults ctx.commands sceneNames (.parsed scene))).leaveScene
          refine ⟨congrArg (_ :: ·) actions, log.trans ?_⟩
          have own : ((ctx.enterScene scene.name).recordAll
              (entryFaults ctx.commands sceneNames (.parsed scene))).log.entries.toList =
                ctx.log.entries.toList ++ entryFaults ctx.commands sceneNames (.parsed scene) := by
            refine (DiagnosticLog.pushAll_entries _ _).trans (congrArg (_ ++ ·) ?_)
            refine List.map_congr_left (fun d member => ?_) |>.trans (List.map_id _)
            obtain ⟨element, -, fault⟩ := List.mem_filterMap.mp member
            exact locate_actionFault fault
          rw [List.flatMap_cons, ← List.append_assoc, ← own]
          rfl

end

/-- The prepared actions of the scenes of a document. -/
def gameActions (entries : List SceneEntry) : List (List (Option ButtonAction)) :=
  entries.map (entryActions builtinCommands (sceneNamesOf entries))

/-- The faults of all actions of a document, scene by scene. -/
def gameFaults (entries : List SceneEntry) : List Diagnostic :=
  entries.flatMap (entryFaults builtinCommands (sceneNamesOf entries))

theorem commands_recordAll_applySettings (ctx : Context) (settings : Settings)
    (ds : List Diagnostic) : ((ctx.applySettings settings).recordAll ds).commands = ctx.commands :=
  congrArg Core.commands
    ((Context.core_recordAll (ctx.applySettings settings) ds).trans
      (core_applySettings ctx settings))

/-! ## Faults without a scene -/

/-- The faults of the layers that the settings of a document list and that have no slot. -/
def capacityFaults (layers : LayerTable) (settings : Settings) : List Diagnostic :=
  (layers.unplaced (settingsLayers settings)).map (capacityFault · "settings")

/-- The faults of a document that belong to none of its scenes. -/
def generalFaults (layers : LayerTable) (game : Game) : List Diagnostic :=
  capacityFaults layers game.settings ++ sectionDiagnostics game

theorem scene_of_mem_generalFaults {layers : LayerTable} {game : Game} :
    ∀ d ∈ generalFaults layers game, d.scene = none := by
  intro d member
  rcases List.mem_append.mp member with capacity | section_
  · obtain ⟨layer, -, rfl⟩ := List.mem_map.mp capacity
    rfl
  · exact (sectionDiagnostics_ofFeature game d section_).scene

theorem log_registerLayer (ctx : Context) (raw subject : String) :
    (ctx.registerLayer raw subject).1.log =
      ctx.log.pushAll ((if (ctx.layers.register (Text.trim raw)).1.isNone then [Text.trim raw]
        else []).map (capacityFault · subject)) := by
  have slot := ctx.registerLayer_slot raw subject
  cases given : (ctx.registerLayer raw subject).2 with
  | none =>
      rw [given] at slot
      rw [registerLayer_of_none ctx raw subject given, if_pos]
      · rfl
      · simpa using slot.symm
  | some index =>
      rw [given] at slot
      rw [(registerLayer_of_some ctx raw subject given).2, if_neg]
      · rfl
      · intro none
        rw [Option.isNone_iff_eq_none.mp none] at slot
        cases slot

theorem log_foldl_registerLayer (names : List String) (ctx : Context) :
    (names.foldl (fun c layer => (c.registerLayer layer "settings").1) ctx).log =
      ctx.log.pushAll
        ((ctx.layers.unplaced (names.map Text.trim)).map (capacityFault · "settings")) := by
  induction names generalizing ctx with
  | nil => rfl
  | cons name rest ih =>
      rw [List.foldl_cons, ih, log_registerLayer, Context.layers_registerLayer,
        ← DiagnosticLog.pushAll_append, ← List.map_append, ← LayerTable.unplaced_cons]
      rfl

theorem log_applySettings (ctx : Context) (settings : Settings) :
    (ctx.applySettings settings).log = ctx.log.pushAll (capacityFaults ctx.layers settings) := by
  unfold Context.applySettings
  dsimp only
  rw [foldl_keeps Context.log _ fun c name => c.log_registerSortingLayer name,
    log_foldl_registerLayer,
    foldl_keeps Context.log (fun c tag => (c.registerTag tag).1) fun _ _ => rfl,
    foldl_keeps Context.layers _ fun c name => c.layers_registerTag name]
  rfl

/-! ## Before the first scene -/

theorem prepareScenes_log_scene (sceneNames : List String) (ctx : Context)
    (entries : List SceneEntry) (outside : ctx.log.scene = none) :
    (prepareScenes sceneNames ctx entries).1.log.scene = none := by
  induction entries generalizing ctx with
  | nil => exact outside
  | cons entry rest ih =>
      unfold prepareScenes
      cases entry with
      | malformed fault => exact ih ctx outside
      | parsed scene => exact ih _ rfl

/-- Before the first scene the log holds the faults without a scene and those of the actions, and no
scene is being worked on. -/
theorem prepare_log (options : Options) (assets : AssetStore) (tables : Tables) (draws : Draws)
    (game : Game) :
    (prepare options assets tables draws game).1.log.entries.toList =
        generalFaults tables.layers game ++ gameFaults game.scenes ∧
      (prepare options assets tables draws game).1.log.scene = none := by
  unfold prepare prepareActions
  extract_lets index start
  have log : ((start.applySettings game.settings).recordAll (sectionDiagnostics game)).log =
      start.log.pushAll (generalFaults tables.layers game) := by
    have applied : (start.applySettings game.settings).log =
        start.log.pushAll (capacityFaults tables.layers game.settings) :=
      log_applySettings start game.settings
    rw [generalFaults, DiagnosticLog.pushAll_append, ← applied]
    rfl
  have general : (start.log.pushAll (generalFaults tables.layers game)).entries.toList =
      generalFaults tables.layers game := by
    rw [DiagnosticLog.pushAll_entries]
    refine (List.nil_append _).trans ?_
    refine (List.map_congr_left fun d member => ?_).trans (List.map_id _)
    unfold DiagnosticLog.locate
    rw [scene_of_mem_generalFaults d member]
    exact congrArg (fun scene => { d with scene }) (scene_of_mem_generalFaults d member).symm
  have commands : ((start.applySettings game.settings).recordAll
      (sectionDiagnostics game)).commands = builtinCommands :=
    commands_recordAll_applySettings start game.settings _
  refine ⟨?_, prepareScenes_log_scene _ _ _ ?_⟩
  · rw [(prepareScenes_eq _ _ _).2, commands, log, general]
    rfl
  · rw [log]
    exact DiagnosticLog.pushAll_scene _ _

/-- Before the first scene the log holds faults of the settings and of the sections, none of which
has a scene, and after them those of the actions. -/
theorem prepare_actions (options : Options) (assets : AssetStore) (tables : Tables) (draws : Draws)
    (game : Game) :
    (prepare options assets tables draws game).2 = gameActions game.scenes ∧
      ∃ general, (prepare options assets tables draws game).1.log.entries.toList =
          general ++ gameFaults game.scenes ∧ ∀ d ∈ general, d.scene = none := by
  refine ⟨?_, generalFaults tables.layers game, (prepare_log options assets tables draws game).1,
    scene_of_mem_generalFaults⟩
  unfold prepare prepareActions
  extract_lets index start
  rw [(prepareScenes_eq _ _ _).1, commands_recordAll_applySettings]
  rfl

end Build

end GameScenes
