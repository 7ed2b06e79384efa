import GameScenes.Proofs.Build.Accounts
import GameScenes.Proofs.Build.Actions
import GameScenes.Proofs.Build.Cast
import GameScenes.Proofs.Build.Resumed
import Mathlib.Data.List.Forall2

/-!
# Actions of buttons

The interface of a saved scene has one element for each element of the document's scene, in the same
order, and of these exactly the buttons have an action: the one that was prepared for the element at
this place, whatever became of the scenes before (`compileGame_buttons`).
-/

set_option autoImplicit false

namespace GameScenes

/-! ## Interfaces -/

namespace Scene

/-- An entity as an element of the interface: its name and what it carries. -/
def Entity.shown? (e : Entity) : Option (String × Widget) := e.components.ui.map (e.name, ·)

namespace Graph

def shownAt? (g : Graph) (id : EntityId) : Option (String × Widget) := (g.get? id).bind (·.shown?)

/-- The elements of the interface in the order of their creation. -/
def interface (g : Graph) : List (String × Widget) := (List.range g.size).filterMap g.shownAt?

theorem shownAt?_congr {g h : Graph} {id : EntityId}
    (same : (h.get? id).map Entity.unlinked = (g.get? id).map Entity.unlinked) :
    h.shownAt? id = g.shownAt? id := by
  have seen := congrArg (Option.bind · (·.shown?)) same
  rw [Option.bind_map, Option.bind_map] at seen
  exact seen

/-- Attaching behaviors to an entity does not show. -/
theorem shownAt?_attach {h : Graph} (orderly : h.Orderly) (behaviors : Behavior.Index)
    (layers : LayerTable) {id : EntityId} (inside : id < h.size)
    (scripts : List Document.Binding) :
    (Behavior.attach behaviors layers h id scripts).1.shownAt? id = h.shownAt? id := by
  obtain ⟨instances, attached⟩ := Behavior.attach_attaches behaviors layers orderly.forest inside
    scripts
  have seen := congrArg (Option.bind · (·.shown?)) attached.own
  rw [Option.bind_map, Option.bind_map] at seen
  exact seen

end Graph

end Scene

namespace Build

open Behavior (Index builtinCommands)
open Document (Element Game SceneEntry)
open Scene (Artifact ButtonAction Entity Graph Widget)
open Storage (Disk)

/-- That an element of an interface is made of an element of the document, with an action only if it
is a button. -/
structure MadeOf (element : Element) (action : Option ButtonAction) (shown : String × Widget) :
    Prop where
  name : shown.1 = Text.trim element.displayName
  kind : shown.2.kind = element.kind
  rect : shown.2.rect = element.rectTransform
  onClick : shown.2.onClick = if element.kind = .button then action else none

/-! ### Growing interfaces -/

namespace Gains

variable {g h : Graph} {roles : List Role}

theorem interface_eq (gains : Gains g h roles) :
    h.interface =
      g.interface ++ (roles.zipIdx g.size).filterMap fun entry => h.shownAt? entry.2 := by
  have old : (List.range g.size).filterMap h.shownAt? = g.interface :=
    List.filterMap_congr fun id member =>
      Graph.shownAt?_congr (gains.kept id (List.mem_range.mp member))
  have new : (List.range' g.size roles.length).filterMap h.shownAt? =
      (roles.zipIdx g.size).filterMap fun entry => h.shownAt? entry.2 := by
    rw [← List.zipIdx_map_snd, List.filterMap_map]
    rfl
  have whole : List.range h.size = List.range g.size ++ List.range' g.size roles.length := by
    have split := @List.range'_append_1 0 g.size roles.length
    rw [Nat.zero_add] at split
    rw [gains.size, List.range_eq_range', List.range_eq_range', split]
  rw [Graph.interface, whole, List.filterMap_append, old, new]

/-- Only an element is shown. -/
theorem shownAt?_eq_none (gains : Gains g h roles) {role : Role} {id : EntityId}
    (member : (role, id) ∈ roles.zipIdx g.size) (other : role.element? = none) :
    h.shownAt? id = none := by
  obtain ⟨e, found, described⟩ := gains.described role id member
  have bare := described.ui
  rw [other] at bare
  simpa [Graph.shownAt?, found, Entity.shown?] using bare

theorem interface_of_none (gains : Gains g h roles)
    (others : ∀ role ∈ roles, role.element? = none) : h.interface = g.interface := by
  rw [gains.interface_eq, List.filterMap_eq_nil_iff.mpr, List.append_nil]
  rintro ⟨role, id⟩ member
  exact gains.shownAt?_eq_none member (others role (List.fst_mem_of_mem_zipIdx member))

/-- An element is shown, and its ground checks are not. -/
theorem interface_of_element {canvas owner : EntityId} {spec : Element} {checks : Nat}
    (gains : Gains g h (.element canvas spec :: List.replicate checks (.groundCheck owner))) :
    h.interface = g.interface ++ (h.shownAt? g.size).toList := by
  have rest : ((List.replicate checks (Role.groundCheck owner)).zipIdx (g.size + 1)).filterMap
      (fun entry => h.shownAt? entry.2) = [] := by
    rw [List.filterMap_eq_nil_iff]
    rintro ⟨role, id⟩ member
    obtain rfl : role = .groundCheck owner :=
      List.eq_of_mem_replicate (List.fst_mem_of_mem_zipIdx member)
    exact gains.shownAt?_eq_none (List.mem_cons_of_mem _ member) rfl
  rw [gains.interface_eq, List.zipIdx_cons, List.filterMap_cons, rest]
  cases h.shownAt? g.size <;> rfl

end Gains

/-! ### Elements -/

variable {g : Graph}

theorem shownAt?_placeElement (orderly : g.Orderly) (behaviors : Index) (layers : LayerTable)
    {canvas : EntityId} (inside : canvas < g.size) (spec : Element)
    (action : Option ButtonAction) (color : Color) (sprite : Option String) :
    ∃ shown, (placeElement behaviors layers g canvas spec action color sprite).1.shownAt? g.size =
      some shown ∧ MadeOf spec action shown := by
  unfold placeElement
  dsimp only
  rw [Graph.spawn_id, Graph.shownAt?_attach]
  · have new := Graph.get?_add_new orderly (Text.trim spec.displayName) (Graph.lt_of_some inside)
    unfold Graph.add at new
    unfold Graph.shownAt?
    rw [new]
    exact ⟨_, rfl, rfl, rfl, rfl, rfl⟩
  · exact orderly.add _ (Graph.lt_of_some inside) fun e => rfl
  · exact Graph.lt_size_add ..

theorem buildElements_interface (orderly : g.Orderly) {canvas : EntityId} (inside : canvas < g.size)
    (ctx : Context) (specs : List Element) (prepared : Element → Option ButtonAction) :
    ∃ shown, (buildElements canvas ctx g specs (specs.map prepared)).2.interface =
        g.interface ++ shown ∧
      List.Forall₂ (fun spec => MadeOf spec (prepared spec)) specs shown := by
  induction specs generalizing g ctx with
  | nil => exact ⟨[], (List.append_nil _).symm, .nil⟩
  | cons spec rest ih =>
      obtain ⟨-, checks, gains⟩ := buildUiElement_gains orderly inside ctx spec (prepared spec)
      obtain ⟨first, own, made⟩ := shownAt?_placeElement orderly
        (elementContext ctx spec).behaviors (elementContext ctx spec).layers inside spec
        (prepared spec) (ctx.readColor spec.color (Text.trim spec.displayName) "color").2
        (importSprite (ctx.readColor spec.color (Text.trim spec.displayName) "color").1 spec.sprite
          (Text.trim spec.displayName)).2
      have still : canvas < (buildUiElement ctx g canvas spec (prepared spec)).2.1.size := by
        rw [gains.size]
        exact Nat.lt_add_right _ inside
      obtain ⟨others, further, all⟩ := ih gains.orderly still
        (buildUiElement ctx g canvas spec (prepared spec)).1
      refine ⟨first :: others, ?_, .cons made all⟩
      refine further.trans ?_
      rw [gains.interface_of_element, buildUiElement_placed, own]
      simp

/-- Before its elements are built a scene shows nothing, and has its canvas. -/
theorem tilemapStep_interface (ctx : Context) (scene : Document.Scene)
    (gameTilesets : List Document.Tileset) :
    (tilemapStep ctx scene gameTilesets).2.Orderly ∧
      (frameOf scene (backgroundStep ctx scene).2).2.canvas <
        (tilemapStep ctx scene gameTilesets).2.size ∧
      (tilemapStep ctx scene gameTilesets).2.interface = [] := by
  obtain ⟨objects, tiles, gains, -, -, objectKinds, tileKinds⟩ :=
    tilemapStep_gains ctx scene gameTilesets
  have frame : ∀ role ∈ [Role.camera, .canvas, .eventSystem], role.element? = none := by
    simp [Role.element?]
  refine ⟨gains.orderly, ?_, gains.interface_of_none ?_⟩
  · rw [(frameOf_gains scene (backgroundStep ctx scene).2).2.1, gains.size_eq]
    simp
  · intro role member
    simp only [List.mem_append] at member
    rcases member with (first | object) | tile
    · exact frame role first
    · rcases objectKinds role object with ⟨spec, rfl⟩ | ⟨owner, rfl⟩ <;> rfl
    · rcases tileKinds with rfl | ⟨layers, rfl, -, kinds⟩
      · cases tile
      · rcases List.mem_cons.mp tile with rfl | layer
        · rfl
        · obtain ⟨index, spec, rfl⟩ := kinds role layer
          rfl

/-- A scene shows the elements of the document in their order, with the actions prepared for
them. -/
theorem compileScene_interface (ctx : Context) (scene : Document.Scene)
    (gameTilesets : List Document.Tileset) (prepared : Element → Option ButtonAction)
    (provenance : Provenance) :
    List.Forall₂ (fun spec => MadeOf spec (prepared spec)) scene.ui
      (compileScene ctx scene gameTilesets (scene.ui.map prepared)
        provenance).2.graph.interface := by
  obtain ⟨orderly, inside, empty⟩ := tilemapStep_interface ctx scene gameTilesets
  obtain ⟨shown, whole, made⟩ := buildElements_interface orderly inside
    (tilemapStep ctx scene gameTilesets).1 scene.ui prepared
  rw [empty, List.nil_append] at whole
  rw [compileScene_steps]
  show List.Forall₂ _ _ (elementStep ctx scene gameTilesets (scene.ui.map prepared)).2.interface
  unfold elementStep
  rw [whole]
  exact made

/-! ## Runs -/

namespace Plan

/-- The steps of a run keep to the places of their scenes, and to the actions at these places. -/
theorem steps_at (plan : Plan) (p : Progress) (start : Nat) (entries : List SceneEntry)
    (actionsOf : SceneEntry → List (Option ButtonAction)) :
    ∀ step ∈ plan.steps p start entries (entries.map actionsOf),
      ∃ k, step.index = start + k ∧ entries[k]? = some step.entry ∧
        step.actions = actionsOf step.entry := by
  induction entries generalizing p start with
  | nil => simp [steps]
  | cons entry rest ih =>
      intro step member
      rw [steps_cons] at member
      split at member
      · cases member
      · rcases List.mem_cons.mp member with rfl | later
        · exact ⟨0, rfl, rfl, rfl⟩
        · obtain ⟨k, index, there, actions⟩ := ih _ _ step later
          exact ⟨k + 1, by omega, there, actions⟩

theorem before_of_head? (plan : Plan) (p : Progress) (index : Nat) (entries : List SceneEntry)
    (actions : List (List (Option ButtonAction))) {first : SceneStep}
    (begins : (plan.steps p index entries actions).head? = some first) : first.before = p := by
  cases entries with
  | nil => cases begins
  | cons entry rest =>
      rcases plan.run_cases p index entry rest actions with ⟨none, -⟩ | ⟨some, -⟩
      · rw [none] at begins
        cases begins
      · rw [some] at begins
        cases begins
        rfl

theorem compileEntries_of_no_steps (plan : Plan) (p : Progress) (index : Nat)
    (entries : List SceneEntry) (actions : List (List (Option ButtonAction)))
    (none : plan.steps p index entries actions = []) :
    (plan.compileEntries p index entries actions).1 = p := by
  cases entries with
  | nil => rfl
  | cons entry rest =>
      rcases plan.run_cases p index entry rest actions with ⟨-, same⟩ | ⟨some, -⟩
      · exact same
      · rw [none] at some
        cases some

end Plan

theorem SceneStep.savedArtifact?_eq_some {step : SceneStep} {artifact : Artifact}
    (saved : step.savedArtifact? = some artifact) :
    ∃ scene, step.entry = .parsed scene ∧ artifact = (step.build scene).2 := by
  unfold savedArtifact? at saved
  cases built : step.scene? with
  | none => simp [built] at saved
  | some scene =>
      rw [built] at saved
      dsimp only at saved
      have own : step.entry = .parsed scene := by
        unfold scene? at built
        split at built
        · cases built
        next spec entry =>
          split at built
          · cases built
          · cases built
            exact entry
      split at saved
      · cases saved
        exact ⟨scene, own, rfl⟩
      · cases saved

theorem SceneStep.build_interface (step : SceneStep) {scene : Document.Scene}
    {prepared : Element → Option ButtonAction} (own : step.actions = scene.ui.map prepared) :
    List.Forall₂ (fun spec => MadeOf spec (prepared spec)) scene.ui
      (step.build scene).2.graph.interface := by
  unfold build
  rw [own]
  exact compileScene_interface ..

/-- That the action of an element is prepared, or else one fault under the name of the scene and of
the element. -/
def ActionSettled (entries : List SceneEntry) (scene : Document.Scene) (element : Element) : Prop :=
  (∃ action, preparedAction? builtinCommands (sceneNamesOf entries) element = some action ∧
    actionFault? builtinCommands (sceneNamesOf entries) scene element = none) ∨
  (preparedAction? builtinCommands (sceneNamesOf entries) element = none ∧
    ∃ d, actionFault? builtinCommands (sceneNamesOf entries) scene element = some d ∧
      d.scene = some scene.name ∧ d.subject = some element.displayName ∧
      d.field = some "onClick")

theorem actionSettled (entries : List SceneEntry) (scene : Document.Scene) {element : Element}
    (given : element.onClick ≠ none) : ActionSettled entries scene element := by
  obtain ⟨action, given⟩ := Option.ne_none_iff_exists'.mp given
  unfold ActionSettled preparedAction? actionFault?
  rw [given, Option.bind_some, Option.bind_some]
  cases builtinCommands.prepare (sceneNamesOf entries) action with
  | ok prepared => exact .inl ⟨prepared, rfl, rfl⟩
  | error fault => exact .inr ⟨rfl, _, rfl, rfl, rfl, rfl⟩

/-- A button that loads a scene names one that the document has. -/
theorem MadeOf.loadScene {entries : List SceneEntry} {element : Element}
    {shown : String × Widget}
    (made : MadeOf element (preparedAction? builtinCommands (sceneNamesOf entries) element) shown)
    {action : ButtonAction} (carried : shown.2.onClick = some action)
    (loads : action.command = "LoadScene") :
    ∃ named, .parsed named ∈ entries ∧ action.args = [("scene", .text named.name)] := by
  rw [made.onClick] at carried
  split at carried
  · obtain ⟨given, -, accepted⟩ := Option.bind_eq_some_iff.mp carried
    have prepared : builtinCommands.prepare (sceneNamesOf entries) given = .ok action := by
      cases outcome : builtinCommands.prepare (sceneNamesOf entries) given with
      | error fault => simp [outcome, Except.toOption] at accepted
      | ok prepared =>
          rw [outcome] at accepted
          cases accepted
          rfl
    obtain ⟨name, known, args⟩ := Behavior.prepare_loadScene prepared loads
    obtain ⟨named, decoded, rfl⟩ := List.mem_map.mp known
    obtain ⟨entry, member, own⟩ := List.mem_filterMap.mp decoded
    cases entry with
    | malformed fault => cases own
    | parsed scene =>
        cases own
        exact ⟨_, member, args⟩
  · cases carried

theorem exists_of_mem_right {α β : Type} {related : α → β → Prop} {xs : List α} {ys : List β}
    (aligned : List.Forall₂ related xs ys) {y : β} (member : y ∈ ys) : ∃ x ∈ xs, related x y := by
  induction aligned with
  | nil => cases member
  | cons first _ ih =>
      rcases List.mem_cons.mp member with rfl | later
      · exact ⟨_, List.mem_cons_self .., first⟩
      · obtain ⟨x, inside, related⟩ := ih later
        exact ⟨x, List.mem_cons_of_mem _ inside, related⟩

/-- Before its first scene a run has prepared every action of the document, or recorded one fault
for it under its scene and its element; no other fault of this time has a scene.  The interface of a
saved scene then shows the elements of the document's scene at the same position, and of these the
buttons carry the actions that were prepared for them, and nothing else carries one.  An action that
loads a scene names one of the document. -/
theorem compileGame_buttons {options : Options} {surroundings : Surroundings} {draws : Draws}
    {storage : Storage} {raw : String} {report : Report}
    (reported : (compileGame options surroundings draws storage raw).result = .ok report) :
    ∃ game, Game.read raw = .ok game ∧
      (∃ general : List Diagnostic, (∀ d ∈ general, d.scene = none) ∧
        general ++ gameFaults game.scenes <+: report.diagnostics ∧
        (gameSteps options surroundings draws storage raw = [] →
          report.diagnostics = general ++ gameFaults game.scenes) ∧
        ∀ first, (gameSteps options surroundings draws storage raw).head? = some first →
          first.before.context.log.entries.toList = general ++ gameFaults game.scenes) ∧
      (∀ scene, .parsed scene ∈ game.scenes → ∀ element ∈ scene.ui, element.onClick ≠ none →
        ActionSettled game.scenes scene element) ∧
      ∀ step ∈ gameSteps options surroundings draws storage raw, ∀ artifact,
        step.savedArtifact? = some artifact →
        ∃ scene, game.scenes[step.index]? = some (.parsed scene) ∧ artifact.name = scene.name ∧
          List.Forall₂ (fun element => MadeOf element
            (preparedAction? builtinCommands (sceneNamesOf game.scenes) element)) scene.ui
              artifact.graph.interface ∧
          ∀ shown ∈ artifact.graph.interface, ∀ action, shown.2.onClick = some action →
            action.command = "LoadScene" →
            ∃ named, .parsed named ∈ game.scenes ∧
              action.args = [("scene", .text named.name)] := by
  obtain ⟨game, made, tables, opened, read, folders, loaded, run⟩ := opened_of_reported reported
  rw [run] at reported
  rw [gameSteps_of_opened surroundings draws read folders loaded, sceneSteps_eq]
  obtain ⟨ended, same, outcome⟩ := compileScenes_eq options surroundings (Sha256.hexDigest raw)
    tables draws opened game
  rw [outcome] at reported
  cases reported
  obtain ⟨actions, general, log, plain⟩ :=
    prepare_actions options (surroundings.assets opened.disk) tables draws game
  generalize begun : Progress.start options (surroundings.assets opened.disk) tables draws opened
    game = start at same ⊢
  have early : start.context.log.entries.toList = general ++ gameFaults game.scenes := by
    rw [← begun]
    exact log
  rw [actions] at same ⊢
  refine ⟨game, read, ⟨general, plain, ?_, ?_, ?_⟩, ?_, ?_⟩
  · obtain ⟨outcomes, advances, -⟩ :=
      (Plan.ofGame options surroundings (Sha256.hexDigest raw) game).compileEntries_advances start 0
        game.scenes (gameActions game.scenes)
    rw [same] at advances
    rw [← early]
    exact advances.log_prefix
  · intro none
    rw [← early, ← Plan.compileEntries_of_no_steps _ _ _ _ _ none, same]
    rfl
  · intro first begins
    rw [← early, Plan.before_of_head? _ _ _ _ _ begins]
  · exact fun scene _ element _ given => actionSettled game.scenes scene given
  · intro step member artifact saved
    obtain ⟨scene, entry, rfl⟩ := step.savedArtifact?_eq_some saved
    obtain ⟨k, index, there, own⟩ := Plan.steps_at _ _ _ _ _ step member
    rw [Nat.zero_add] at index
    rw [entry] at there own
    have built := step.build_interface own
    refine ⟨scene, index ▸ there, rfl, built, ?_⟩
    intro shown inside action carried loads
    obtain ⟨element, -, from_⟩ := exists_of_mem_right built inside
    exact from_.loadScene carried loads

/-! A document whose first scene does not decode and whose second one has a button. -/

def quitText : String :=
  "\x7b\"game\":\x7b\"scenes\":[true,\x7b\"ui\":[\x7b\"onClick\":\x7b\"command\":\"Quit\"\x7d," ++
    "\"type\":\"button\"\x7d]\x7d]\x7d\x7d"

def quitButton : Json :=
  .object [("onClick", .object [("command", .text "Quit")]), ("type", .text "button")]

def quitJson : Json :=
  .object [("game", .object [("scenes", .array [.bool true, .object
    [("ui", .array [quitButton])]])])]

theorem canonical_quitButton : quitButton.canonical = quitButton := by
  have inner : Json.sortMembers [("command", Json.text "Quit")] = [("command", .text "Quit")] := by
    simp [Json.sortMembers, Json.keepLast]
  have outer : Json.sortMembers
      [("onClick", Json.object [("command", .text "Quit")]), ("type", .text "button")] =
        [("onClick", Json.object [("command", .text "Quit")]), ("type", .text "button")] := by
    rw [Json.sortMembers, List.mergeSort_of_pairwise (by decide)]
    rfl
  simp only [quitButton, Json.canonical, Json.canonicalMembers, inner, outer]

theorem read_quitText : Game.read quitText = Game.ofJson quitJson := by
  have whole : Json.readWhole (some Document.maxEntries) quitText.toList = .ok quitJson := by cbv
  have canonical : quitJson.canonical = quitJson := by
    simp [quitJson, Json.canonical, Json.canonicalItems, Json.canonicalMembers, Json.sortMembers,
      Json.keepLast, canonical_quitButton]
  unfold Game.read
  rw [if_neg (by decide +kernel), Json.readBounded, whole, Except.map, canonical]

/-- The button of the second scene carries the action at its own place. -/
theorem compileGame_buttons_quit :
    ∃ report, (compileGame plainOptions bareSurroundings plainDraws
        (Storage.start Disk.empty [] fun _ => none) quitText).result = .ok report ∧
      ∃ game, Game.read quitText = .ok game ∧
        ∃ step ∈ gameSteps plainOptions bareSurroundings plainDraws
            (Storage.start Disk.empty [] fun _ => none) quitText, ∃ artifact,
          step.index = 1 ∧ step.savedArtifact? = some artifact ∧
          artifact.graph.interface.map (·.2.onClick.map (·.command)) = [some "Quit"] ∧
          ∃ scene, game.scenes[1]? = some (.parsed scene) ∧
            List.Forall₂ (fun element => MadeOf element
              (preparedAction? builtinCommands (sceneNamesOf game.scenes) element)) scene.ui
                artifact.graph.interface := by
  have ends : (compileGame plainOptions bareSurroundings plainDraws
      (Storage.start Disk.empty [] fun _ => none) quitText).result.toOption.isSome = true := by
    unfold compileGame
    rw [read_quitText]
    decide +kernel
  have facts : (gameSteps plainOptions bareSurroundings plainDraws
      (Storage.start Disk.empty [] fun _ => none) quitText).any (fun step =>
        step.index == 1 && step.savedArtifact?.any fun artifact =>
          artifact.graph.interface.map (·.2.onClick.map (·.command)) == [some "Quit"]) = true := by
    unfold gameSteps
    rw [read_quitText]
    decide +kernel
  obtain ⟨step, member, found⟩ := List.any_eq_true.mp facts
  simp only [Bool.and_eq_true, beq_iff_eq, Option.any_eq_true] at found
  obtain ⟨index, artifact, saved, carried⟩ := found
  cases reported : (compileGame plainOptions bareSurroundings plainDraws
      (Storage.start Disk.empty [] fun _ => none) quitText).result with
  | error cause =>
      rw [reported] at ends
      cases ends
  | ok report =>
      obtain ⟨game, read, -, -, buttons⟩ := compileGame_buttons reported
      obtain ⟨scene, there, -, shown, -⟩ := buttons step member artifact saved
      rw [index] at there
      exact ⟨report, rfl, game, read, step, member, artifact, index, saved, carried, scene, there,
        shown⟩

end Build

end GameScenes
