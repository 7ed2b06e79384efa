import GameScenes.Build.Entity
import GameScenes.Document.Game
import GameScenes.Scene.Artifact

/-!
# Building the user interface

Actions are checked for the whole document before any scene is built.  Elements become entities
below the canvas of their scene.
-/

set_option autoImplicit false

namespace GameScenes.Build

open Behavior (CommandFault)
open Document (CanvasSettings Element SceneEntry)
open Scene (ButtonAction Graph UiRoots)

/-- The name of the root of the user interface. -/
def canvasName : String := "Canvas"

/-- The name of the entity that receives input. -/
def eventSystemName : String := "EventSystem"

/-- The size of text for which the document gives no usable size. -/
def usualFontSize : Float32 := 24

/-! ## Actions -/

/-- The kind of fault that an action without a prepared command is. -/
def commandFaultCode : CommandFault → DiagnosticCode
  | .unknown _ => .unknownCommand
  | .unknownParameter _ _ => .unknownParameter
  | .missingParameter _ _ => .coercionFailed
  | .invalidArgument _ _ _ => .coercionFailed
  | .rejected _ _ => .unresolvedReference

def prepareAction (sceneNames : List String) (ctx : Context) (element : Element) :
    Context × Option ButtonAction :=
  match element.onClick with
  | none => (ctx, none)
  | some action =>
      match ctx.commands.prepare sceneNames action with
      | .ok prepared => (ctx, some prepared)
      | .error fault =>
          (ctx.record ((((Diagnostic.warning (commandFaultCode fault) fault.message).about
            element.displayName).inField "onClick").withValue action.command), none)

/-- Prepares the actions of elements in order. -/
def prepareElements (sceneNames : List String) :
    Context → List Element → Context × List (Option ButtonAction)
  | ctx, [] => (ctx, [])
  | ctx, element :: rest =>
      let (ctx, action) := prepareAction sceneNames ctx element
      let (ctx, actions) := prepareElements sceneNames ctx rest
      (ctx, action :: actions)

/-- Prepares the actions of the scenes in order; a scene that did not decode has none. -/
def prepareScenes (sceneNames : List String) :
    Context → List SceneEntry → Context × List (List (Option ButtonAction))
  | ctx, [] => (ctx, [])
  | ctx, .malformed _ :: rest =>
      let (ctx, actions) := prepareScenes sceneNames ctx rest
      (ctx, [] :: actions)
  | ctx, .parsed scene :: rest =>
      let (ctx, first) := prepareElements sceneNames (ctx.enterScene scene.name) scene.ui
      let (ctx, actions) := prepareScenes sceneNames ctx.leaveScene rest
      (ctx, first :: actions)

def sceneNamesOf (entries : List SceneEntry) : List String :=
  (entries.filterMap SceneEntry.scene?).map (·.name)

/-- The actions of all elements of all scenes; one that cannot be prepared is a fault. -/
def prepareActions (ctx : Context) (entries : List SceneEntry) :
    Context × List (List (Option ButtonAction)) :=
  prepareScenes (sceneNamesOf entries) ctx entries

/-! ## Entities -/

/-- Makes the canvas and the entity that receives input. -/
def createUiRoots (graph : Graph) (settings : CanvasSettings) : Graph × UiRoots :=
  let (graph, canvas) := graph.spawn canvasName none
  let graph := graph.modify canvas fun e =>
    { e with
      layer := uiLayerIndex
      components := { e.components with
        canvas := some ⟨settings.renderMode, settings.referenceResolution⟩ } }
  let (graph, eventSystem) := graph.spawn eventSystemName none
  let graph := graph.modify eventSystem fun e =>
    { e with components := { e.components with eventSystem := true } }
  (graph, ⟨canvas, eventSystem⟩)

/-- The canonical path of the picture of an element. -/
def importSprite (ctx : Context) (sprite : Option String) (subject : String) :
    Context × Option String :=
  match nonBlank? sprite with
  | none => (ctx, none)
  | some path =>
      let (ctx, asset) := ctx.importAsset path subject "sprite"
      (ctx, asset.map (·.canonicalPath))

/-- The text of an element; only an image may be without one. -/
def elementText (spec : Element) : Option String :=
  match spec.kind with
  | .image => spec.text
  | .text => some (spec.text.getD "")
  | .button => some (spec.text.getD "")

/-- Builds an element below a canvas; only a button keeps its action. -/
def buildUiElement (ctx : Context) (graph : Graph) (canvas : EntityId) (spec : Element)
    (action : Option ButtonAction) : Context × Graph × EntityId :=
  let name := Text.trim spec.displayName
  let (ctx, color) := ctx.readColor spec.color name "color"
  let (ctx, sprite) := importSprite ctx spec.sprite name
  let (graph, id) := graph.spawn name (some canvas)
  let graph := graph.modify id fun e =>
    { e with
      layer := uiLayerIndex
      components := { e.components with
        ui := some
          { kind := spec.kind
            rect := spec.rectTransform
            text := elementText spec
            fontSize := (spec.fontSize.filter Geometry.isPositive).getD usualFontSize
            color
            sprite
            onClick := if spec.kind = .button then action else none } } }
  let (graph, diagnostics) := Behavior.attach ctx.behaviors ctx.tables.layers graph id
    spec.scripts
  (ctx.recordAll diagnostics, graph, id)

end GameScenes.Build
