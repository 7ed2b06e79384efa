import GameScenes.Proofs.Build.Replay

/-!
# What building records

Building a scene and checking its actions record faults of features only: warnings that concern no
scene as a whole.  They go to the end of the log, and nothing that the log held before is changed.
-/

set_option autoImplicit false

namespace GameScenes

/-- Whether a kind of fault concerns a scene as a whole. -/
def DiagnosticCode.concernsScene : DiagnosticCode → Bool
  | sceneAborted => true
  | duplicateSceneName => true
  | outputFailed => true
  | _ => false

namespace Diagnostic

/-- A fault of a feature, before it is known to which scene the feature belongs. -/
structure OfFeature (d : Diagnostic) : Prop where
  severity : d.severity = .warning
  code : d.code.concernsScene = false
  scene : d.scene = none

variable {d : Diagnostic}

theorem OfFeature.warning {code : DiagnosticCode} (h : code.concernsScene = false)
    (message : String) : (Diagnostic.warning code message).OfFeature := ⟨rfl, h, rfl⟩

theorem OfFeature.about (h : d.OfFeature) (subject : String) : (d.about subject).OfFeature :=
  ⟨h.severity, h.code, h.scene⟩

theorem OfFeature.inField (h : d.OfFeature) (field : String) : (d.inField field).OfFeature :=
  ⟨h.severity, h.code, h.scene⟩

theorem OfFeature.withValue (h : d.OfFeature) (value : String) : (d.withValue value).OfFeature :=
  ⟨h.severity, h.code, h.scene⟩

end Diagnostic

namespace DiagnosticLog

theorem pushAll_append (log : DiagnosticLog) (ds es : List Diagnostic) :
    log.pushAll (ds ++ es) = (log.pushAll ds).pushAll es := List.foldl_append

theorem pushAll_scene (log : DiagnosticLog) (ds : List Diagnostic) :
    (log.pushAll ds).scene = log.scene := by
  induction ds generalizing log with
  | nil => rfl
  | cons d rest ih => exact ih (log.push d)

theorem pushAll_entries (log : DiagnosticLog) (ds : List Diagnostic) :
    (log.pushAll ds).entries.toList = log.entries.toList ++ ds.map log.locate := by
  induction ds generalizing log with
  | nil => simp [pushAll]
  | cons d rest ih =>
      have later : (log.push d).locate = log.locate := rfl
      have first : (log.push d).entries.toList = log.entries.toList ++ [log.locate d] := by
        simp [push]
      calc (log.pushAll (d :: rest)).entries.toList
          = ((log.push d).pushAll rest).entries.toList := rfl
        _ = log.entries.toList ++ [log.locate d] ++ rest.map log.locate := by
            rw [ih, first, later]
        _ = log.entries.toList ++ (d :: rest).map log.locate := by simp

end DiagnosticLog

namespace Behavior

/-! ## Behaviors -/

theorem CoercionFault.code_concernsScene (fault : CoercionFault) :
    fault.code.concernsScene = false := by
  cases fault <;> rfl

theorem LookupFault.code_concernsScene (fault : LookupFault) :
    fault.code.concernsScene = false := by
  cases fault <;> rfl

theorem bindParameter_ofFeature (site : BindingSite) (descriptor : Descriptor) (i : Instance)
    (name : String) (raw : Json) :
    ∀ d ∈ (bindParameter site descriptor i name raw).2, d.OfFeature := by
  intro d recorded
  unfold bindParameter at recorded
  split at recorded
  · cases recorded
    exact (((Diagnostic.OfFeature.warning rfl _).about _).inField _).withValue _
  · split at recorded
    · cases recorded
    · dsimp only at recorded
      split at recorded
      next cause _ =>
        cases recorded
        exact (((Diagnostic.OfFeature.warning cause.code_concernsScene _).about _).inField
          _).withValue _
      · obtain ⟨reason, -, rfl⟩ := Option.map_eq_some_iff.mp recorded
        exact (((Diagnostic.OfFeature.warning rfl _).about _).inField _).withValue _

theorem bindExplicit_ofFeature (site : BindingSite) (descriptor : Descriptor) (i : Instance)
    (parameters : List (String × Json)) :
    ∀ d ∈ (bindExplicit site descriptor i parameters).2, d.OfFeature := by
  induction parameters generalizing i with
  | nil => simp [bindExplicit]
  | cons parameter rest ih =>
      obtain ⟨name, raw⟩ := parameter
      intro d member
      rcases List.mem_append.mp member with first | later
      · exact bindParameter_ofFeature site descriptor i name raw d (Option.mem_toList.mp first)
      · exact ih _ d later

theorem attachOne_ofFeature (index : Index) (layers : LayerTable) (entity : EntityId)
    (subject : String) (graph : Scene.Graph) (binding : Document.Binding) :
    ∀ d ∈ (attachOne index layers entity subject graph binding).2, d.OfFeature := by
  unfold attachOne
  split
  next fault _ =>
    intro d member
    rw [List.mem_singleton] at member
    rw [member]
    exact ((Diagnostic.OfFeature.warning fault.code_concernsScene _).about _).withValue _
  next registered _ => exact bindExplicit_ofFeature _ registered.descriptor _ _

theorem attachEach_ofFeature (index : Index) (layers : LayerTable) (entity : EntityId)
    (subject : String) (graph : Scene.Graph) (bindings : List Document.Binding) :
    ∀ d ∈ (attachEach index layers entity subject graph bindings).2, d.OfFeature := by
  induction bindings generalizing graph with
  | nil => simp [attachEach]
  | cons binding rest ih =>
      have first := attachOne_ofFeature index layers entity subject graph binding
      unfold attachEach
      generalize attachOne index layers entity subject graph binding = step at first ⊢
      obtain ⟨next, recorded⟩ := step
      intro d member
      rcases List.mem_append.mp member with early | late
      · exact first d early
      · exact ih next d late

theorem attach_ofFeature (index : Index) (layers : LayerTable) (graph : Scene.Graph)
    (entity : EntityId) (bindings : List Document.Binding) :
    ∀ d ∈ (attach index layers graph entity bindings).2, d.OfFeature :=
  attachEach_ofFeature index layers entity _ graph bindings

end Behavior

namespace Build

open Document (Element Game Object SceneEntry Sprite Tilemap Tileset)
open Scene (ButtonAction Graph)
open Tiles (SlicedAtlas)

/-- That only faults of features were recorded between two contexts. -/
def Warned (before after : Context) : Prop :=
  ∃ faults, (∀ d ∈ faults, d.OfFeature) ∧ after.log = before.log.pushAll faults

namespace Warned

variable {a b c : Context}

theorem of_log (h : b.log = a.log) : Warned a b := ⟨[], by simp, h⟩

theorem refl (ctx : Context) : Warned ctx ctx := of_log rfl

theorem trans (first : Warned a b) (second : Warned b c) : Warned a c := by
  obtain ⟨ds, featured, earlier⟩ := first
  obtain ⟨es, others, later⟩ := second
  refine ⟨ds ++ es, ?_, ?_⟩
  · intro d member
    rcases List.mem_append.mp member with old | new
    · exact featured d old
    · exact others d new
  · rw [later, earlier, DiagnosticLog.pushAll_append]

theorem recordAll (h : Warned a b) {ds : List Diagnostic} (featured : ∀ d ∈ ds, d.OfFeature) :
    Warned a (b.recordAll ds) :=
  h.trans ⟨ds, featured, rfl⟩

theorem record (h : Warned a b) {d : Diagnostic} (featured : d.OfFeature) :
    Warned a (b.record d) :=
  h.trans ⟨[d], by simpa using featured, rfl⟩

theorem scene (h : Warned a b) : b.log.scene = a.log.scene := by
  obtain ⟨faults, -, later⟩ := h
  rw [later, DiagnosticLog.pushAll_scene]

end Warned

/-! ## Tables, assets and colors -/

section

variable (ctx : Context)

theorem warned_registerLayer (raw subject : String) :
    Warned ctx (ctx.registerLayer raw subject).1 := by
  unfold Context.registerLayer
  dsimp only
  split
  · exact .of_log rfl
  · exact (Warned.refl ctx).record
      ((((Diagnostic.OfFeature.warning rfl _).about _).inField _).withValue _)

theorem warned_registerSortingLayer (raw : String) :
    Warned ctx (ctx.registerSortingLayer raw).1 := by
  unfold Context.registerSortingLayer
  dsimp only
  split <;> exact .of_log rfl

theorem assetFaultCode_concernsScene (fault : AssetFault) :
    (Context.assetFaultCode fault).concernsScene = false := by
  cases fault <;> rfl

theorem warned_importAsset (raw subject field : String) :
    Warned ctx (ctx.importAsset raw subject field).1 := by
  unfold Context.importAsset
  generalize ctx.imports.importAsset ctx.assets raw = step
  obtain ⟨result, cache, asked⟩ := step
  have opened : Warned ctx { ctx with imports := cache, asked := ctx.asked ++ asked } :=
    .of_log rfl
  cases result with
  | ok asset => exact opened
  | error fault =>
      exact opened.record ((((Diagnostic.OfFeature.warning
        (assetFaultCode_concernsScene fault) _).about _).inField _).withValue _)

theorem warned_readColor (raw : Option String) (subject field : String) :
    Warned ctx (ctx.readColor raw subject field).1 := by
  unfold Context.readColor
  split
  · exact .refl ctx
  · split
    · exact .refl ctx
    · exact (Warned.refl ctx).record
        ((((Diagnostic.OfFeature.warning rfl _).about _).inField _).withValue _)

/-! ## Entities -/

theorem warned_findParent (graph : Graph) (spec : Object) (name : String) :
    Warned ctx (findParent ctx graph spec name).1 := by
  unfold findParent
  split
  · exact .refl ctx
  · split
    · exact .refl ctx
    · exact (Warned.refl ctx).record
        ((((Diagnostic.OfFeature.warning rfl _).about _).inField _).withValue _)

theorem warned_registerTag? (raw : Option String) : Warned ctx (registerTag? ctx raw).1 := by
  unfold registerTag?
  split <;> exact .of_log rfl

theorem warned_registerLayer? (raw : Option String) (subject : String) :
    Warned ctx (registerLayer? ctx raw subject).1 := by
  unfold registerLayer?
  split
  · exact .refl ctx
  · exact warned_registerLayer ctx _ subject

theorem warned_buildVisual (sprite : Sprite) (subject : String) :
    Warned ctx (buildVisual ctx sprite subject).1 := by
  unfold buildVisual
  split
  · exact .refl ctx
  next path _ =>
    have imported := warned_importAsset ctx path subject "sprite.path"
    split
    next found => rwa [found] at imported
    next opened asset found =>
      rw [found] at imported
      have colored := warned_readColor opened sprite.color subject "sprite.color"
      split
      next painted color read =>
        rw [read] at colored
        have sorted := warned_registerSortingLayer painted (sprite.sortingLayer.getD "")
        split
        next last layer registered =>
          rw [registered] at sorted
          exact imported.trans (colored.trans sorted)

theorem warned_buildVisual? (sprite : Option Sprite) (subject : String) :
    Warned ctx (buildVisual? ctx sprite subject).1 := by
  cases sprite with
  | none => exact .refl ctx
  | some sprite => exact warned_buildVisual ctx sprite subject

theorem warned_buildEntity (graph : Graph) (spec : Object) :
    Warned ctx (buildEntity ctx graph spec).1 := by
  have parent := warned_findParent ctx graph spec (Text.trim spec.displayName)
  have tag : Warned ctx (taggedContext ctx graph spec) :=
    parent.trans (warned_registerTag? _ spec.tag)
  have layer : Warned ctx (layeredContext ctx graph spec) :=
    tag.trans (warned_registerLayer? _ spec.layer _)
  have visual : Warned ctx (entityContext ctx graph spec) :=
    layer.trans (warned_buildVisual? _ spec.sprite _)
  exact visual.recordAll (Behavior.attach_ofFeature _ _ _ _ spec.scripts)

theorem warned_placeEntities (graph : Graph) (specs : List Object) :
    Warned ctx (placeEntities ctx graph specs).1 := by
  induction specs generalizing ctx graph with
  | nil => exact .refl ctx
  | cons spec rest ih =>
      have first := warned_buildEntity ctx graph spec
      unfold placeEntities
      generalize buildEntity ctx graph spec = step at first ⊢
      obtain ⟨next, grown, id⟩ := step
      exact first.trans (ih next grown)

/-! ## Tilemaps -/

theorem outsideFaults_ofFeature (tileset : String) (names : List String) :
    ∀ d ∈ outsideFaults tileset names, d.OfFeature := by
  intro d member
  obtain ⟨name, -, rfl⟩ := List.mem_map.mp member
  exact ((Diagnostic.OfFeature.warning rfl _).about _).withValue _

theorem paintingFaults_ofFeature (layer tileset : String) (painted : Tiles.PaintedGrid) :
    ∀ d ∈ paintingFaults layer tileset painted, d.OfFeature := by
  intro d member
  rcases List.mem_append.mp member with keys | names
  · obtain ⟨key, -, rfl⟩ := List.mem_map.mp keys
    exact (((Diagnostic.OfFeature.warning rfl _).about _).inField _).withValue _
  · obtain ⟨unknown, -, rfl⟩ := List.mem_map.mp names
    exact (((Diagnostic.OfFeature.warning rfl _).about _).inField _).withValue _

theorem warned_paintTilemap (graph : Graph) (grid : Option EntityId) (spec : Tilemap)
    (name : String) (asset : ImportedAsset) (sliced : SlicedAtlas) :
    Warned ctx (paintTilemap ctx graph grid spec name asset sliced).context := by
  unfold paintTilemap
  extract_lets atlas painted faulted cellSize
  have recorded : Warned ctx faulted := by
    apply (Warned.refl ctx).recordAll
    intro d member
    rcases List.mem_append.mp member with outside | painting
    · exact outsideFaults_ofFeature _ _ d outside
    · exact paintingFaults_ofFeature _ _ _ d painting
  have sorted := recorded.trans (warned_registerSortingLayer faulted (spec.sortingLayer.getD ""))
  generalize faulted.registerSortingLayer (spec.sortingLayer.getD "") = result at sorted ⊢
  obtain ⟨last, layer⟩ := result
  exact sorted

theorem warned_buildTilemap (graph : Graph) (grid : Option EntityId) (spec : Tilemap)
    (index : Nat) (tilesets : List Tileset) :
    Warned ctx (buildTilemap ctx graph grid spec index tilesets).context := by
  unfold buildTilemap
  extract_lets name
  split
  · exact (Warned.refl ctx).record
      ((((Diagnostic.OfFeature.warning rfl _).about _).inField _).withValue _)
  next tileset _ =>
    have imported := warned_importAsset ctx tileset.image name "tileset.image"
    split
    next opened found => rwa [found] at imported
    next opened asset found =>
      rw [found] at imported
      split
      · exact imported.record (((Diagnostic.OfFeature.warning rfl _).about _).withValue _)
      · exact imported.trans (warned_paintTilemap opened graph grid spec name asset _)

theorem warned_buildTilemaps (tilesets : List Tileset) (graph : Graph) (grid : Option EntityId)
    (index : Nat) (specs : List Tilemap) :
    Warned ctx (buildTilemaps tilesets ctx graph grid index specs).1 := by
  induction specs generalizing ctx graph grid index with
  | nil => exact .refl ctx
  | cons spec rest ih =>
      have first := warned_buildTilemap ctx graph grid spec index tilesets
      unfold buildTilemaps
      generalize buildTilemap ctx graph grid spec index tilesets = step at first ⊢
      exact first.trans (ih step.context step.graph step.grid (index + 1))

/-! ## Elements of the user interface -/

theorem warned_importSprite (sprite : Option String) (subject : String) :
    Warned ctx (importSprite ctx sprite subject).1 := by
  unfold importSprite
  split
  · exact .refl ctx
  next path _ =>
    have imported := warned_importAsset ctx path subject "sprite"
    generalize ctx.importAsset path subject "sprite" = step at imported ⊢
    exact imported

theorem warned_buildUiElement (graph : Graph) (canvas : EntityId) (spec : Element)
    (action : Option ButtonAction) :
    Warned ctx (buildUiElement ctx graph canvas spec action).1 := by
  have color := warned_readColor ctx spec.color (Text.trim spec.displayName) "color"
  have sprite : Warned ctx (elementContext ctx spec) :=
    color.trans (warned_importSprite _ spec.sprite _)
  exact sprite.recordAll (Behavior.attach_ofFeature _ _ _ _ spec.scripts)

theorem warned_buildElements (graph : Graph) (canvas : EntityId) (specs : List Element)
    (actions : List (Option ButtonAction)) :
    Warned ctx (buildElements canvas ctx graph specs actions).1 := by
  induction specs generalizing ctx graph actions with
  | nil => exact .refl ctx
  | cons spec rest ih =>
      have first := warned_buildUiElement ctx graph canvas spec (actions.head?.bind id)
      unfold buildElements
      generalize buildUiElement ctx graph canvas spec (actions.head?.bind id) = step at first ⊢
      obtain ⟨next, grown, id⟩ := step
      exact first.trans (ih next grown actions.tail)

/-! ## Scenes -/

theorem warned_readBackground (raw : Option String) :
    Warned ctx (readBackground ctx raw).1 := by
  unfold readBackground
  split
  · exact .refl ctx
  · split
    · exact .refl ctx
    · exact (Warned.refl ctx).record
        ((((Diagnostic.OfFeature.warning rfl _).about _).inField _).withValue _)

theorem warned_elementStep (scene : Document.Scene) (tilesets : List Tileset)
    (actions : List (Option ButtonAction)) :
    Warned (ctx.enterScene scene.name) (elementStep ctx scene tilesets actions).1 := by
  have background : Warned (ctx.enterScene scene.name) (backgroundStep ctx scene).1 :=
    warned_readBackground _ scene.backgroundColor
  have entities : Warned (ctx.enterScene scene.name) (entityStep ctx scene).1 :=
    background.trans (warned_placeEntities _ _ scene.gameObjects)
  have tilemaps : Warned (ctx.enterScene scene.name) (tilemapStep ctx scene tilesets).1 :=
    entities.trans (warned_buildTilemaps _ _ _ none 0 scene.tilemaps)
  exact tilemaps.trans (warned_buildElements _ _ _ scene.ui actions)

/-- Compiling a scene records faults of its features under its name. -/
theorem compileScene_log (scene : Document.Scene) (tilesets : List Tileset)
    (actions : List (Option ButtonAction)) (provenance : Provenance) :
    ∃ faults, (∀ d ∈ faults, d.OfFeature) ∧
      (compileScene ctx scene tilesets actions provenance).1.log =
        ((ctx.log.enterScene scene.name).pushAll faults).leaveScene := by
  obtain ⟨faults, featured, same⟩ := warned_elementStep ctx scene tilesets actions
  refine ⟨faults, featured, ?_⟩
  rw [compileScene_steps]
  exact congrArg DiagnosticLog.leaveScene same

/-! ## Games -/

theorem warned_prepareAction (sceneNames : List String) (element : Element) :
    Warned ctx (prepareAction sceneNames ctx element).1 := by
  unfold prepareAction
  split
  · exact .refl ctx
  · split
    · exact .refl ctx
    next fault _ =>
      have code : (commandFaultCode fault).concernsScene = false := by cases fault <;> rfl
      exact (Warned.refl ctx).record
        ((((Diagnostic.OfFeature.warning code _).about _).inField _).withValue _)

theorem warned_prepareElements (sceneNames : List String) (elements : List Element) :
    Warned ctx (prepareElements sceneNames ctx elements).1 := by
  induction elements generalizing ctx with
  | nil => exact .refl ctx
  | cons element rest ih =>
      have first := warned_prepareAction ctx sceneNames element
      unfold prepareElements
      generalize prepareAction sceneNames ctx element = step at first ⊢
      obtain ⟨next, action⟩ := step
      exact first.trans (ih next)

theorem warned_foldl {α : Type} (step : Context → α → Context)
    (warns : ∀ ctx a, Warned ctx (step ctx a)) (items : List α) :
    Warned ctx (items.foldl step ctx) := by
  induction items generalizing ctx with
  | nil => exact .refl ctx
  | cons item rest ih => exact (warns ctx item).trans (ih (step ctx item))

theorem warned_applySettings (settings : Document.Settings) :
    Warned ctx (ctx.applySettings settings) := by
  unfold Context.applySettings
  extract_lets sized tagged layered
  have first : Warned ctx tagged := by
    apply (Warned.of_log (b := sized) rfl).trans
    apply warned_foldl
    intro c tag
    exact .of_log rfl
  have second : Warned ctx layered := by
    apply first.trans
    apply warned_foldl
    intro c layer
    exact warned_registerLayer c layer "settings"
  apply second.trans
  apply warned_foldl
  intro c name
  exact warned_registerSortingLayer c name

end

/-- Whether a context has recorded faults of features only, in whichever scenes. -/
def Featured (ctx : Context) : Prop :=
  ∀ d ∈ ctx.log.entries.toList, d.code.concernsScene = false

theorem Featured.warned {a b : Context} (h : Featured a) (w : Warned a b) : Featured b := by
  obtain ⟨faults, features, same⟩ := w
  intro d member
  rw [same, DiagnosticLog.pushAll_entries] at member
  rcases List.mem_append.mp member with old | new
  · exact h d old
  · obtain ⟨fault, inside, rfl⟩ := List.mem_map.mp new
    exact (features fault inside).code

theorem featured_prepareScenes (sceneNames : List String) (ctx : Context)
    (entries : List SceneEntry) (h : Featured ctx) :
    Featured (prepareScenes sceneNames ctx entries).1 := by
  induction entries generalizing ctx with
  | nil => exact h
  | cons entry rest ih =>
      cases entry with
      | malformed fault =>
          unfold prepareScenes
          exact ih ctx h
      | parsed scene =>
          have entered : Featured (ctx.enterScene scene.name) := h
          have first := entered.warned (warned_prepareElements _ sceneNames scene.ui)
          unfold prepareScenes
          generalize prepareElements sceneNames (ctx.enterScene scene.name) scene.ui = step
            at first ⊢
          obtain ⟨next, actions⟩ := step
          exact ih next.leaveScene first

theorem sectionDiagnostics_ofFeature (game : Game) :
    ∀ d ∈ sectionDiagnostics game, d.OfFeature := by
  intro d member
  obtain ⟨fault, -, rfl⟩ := List.mem_map.mp member
  exact (Diagnostic.OfFeature.warning rfl _).inField _

/-- Before the first scene only faults of features are on record. -/
theorem featured_prepare (options : Options) (assets : AssetStore) (tables : Tables)
    (draws : Draws) (game : Game) : Featured (prepare options assets tables draws game).1 := by
  unfold prepare
  extract_lets index start
  have empty : Featured start := by
    intro d member
    simp [start, Context.start, DiagnosticLog.empty] at member
  apply featured_prepareScenes
  exact empty.warned ((warned_applySettings start game.settings).recordAll
    (sectionDiagnostics_ofFeature game))

end Build

end GameScenes
