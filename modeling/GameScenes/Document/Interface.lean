import GameScenes.Document.Object

/-!
# User interface in documents

Elements of the interface lie in a rectangle relative to the canvas; a button may carry an action.
-/

set_option autoImplicit false

namespace GameScenes.Document

open Json Json.Decoder

inductive CanvasMode where
  | screenSpaceOverlay
  | screenSpaceCamera
  | worldSpace
  deriving DecidableEq, Repr

def CanvasMode.ofWord (word : String) : CanvasMode :=
  let lowered := Text.lower word
  if Text.mentions lowered "camera" then .screenSpaceCamera
  else if Text.mentions lowered "world" then .worldSpace
  else .screenSpaceOverlay

def CanvasMode.name : CanvasMode → String
  | screenSpaceOverlay => "ScreenSpaceOverlay"
  | screenSpaceCamera => "ScreenSpaceCamera"
  | worldSpace => "WorldSpace"

structure CanvasSettings where
  renderMode : CanvasMode
  referenceResolution : Vector2

namespace CanvasSettings

/-- A canvas over a screen of common size. -/
def blank : CanvasSettings := ⟨.screenSpaceOverlay, ⟨1920, 1080⟩⟩

def decode : Decoder CanvasSettings :=
  record "UiSettingsSpec"
    [.of "renderMode" (mapped text CanvasMode.ofWord) fun renderMode s => { s with renderMode },
      .of "referenceResolution" vector2
        fun referenceResolution s => { s with referenceResolution }]
    blank

end CanvasSettings

inductive ElementKind where
  | text
  | image
  | button
  deriving DecidableEq, Repr

def ElementKind.ofWord (word : String) : ElementKind :=
  let lowered := Text.lower word
  if Text.mentions lowered "button" then .button
  else if Text.mentions lowered "image" || Text.mentions lowered "panel" then .image
  else .text

def ElementKind.name : ElementKind → String
  | text => "Text"
  | image => "Image"
  | button => "Button"

/-- A rectangle relative to the parent's. -/
structure RectTransform where
  anchorMin : Vector2
  anchorMax : Vector2
  pivot : Vector2
  anchoredPosition : Vector2
  sizeDelta : Vector2

namespace RectTransform

/-- A small rectangle in the middle. -/
def blank : RectTransform :=
  ⟨⟨0.5, 0.5⟩, ⟨0.5, 0.5⟩, ⟨0.5, 0.5⟩, Vector2.zero, ⟨160, 30⟩⟩

def decode : Decoder RectTransform :=
  record "RectTransformSpec"
    [.of "anchorMin" vector2 fun anchorMin r => { r with anchorMin },
      .of "anchorMax" vector2 fun anchorMax r => { r with anchorMax },
      .of "pivot" vector2 fun pivot r => { r with pivot },
      .of "anchoredPosition" vector2 fun anchoredPosition r => { r with anchoredPosition },
      .of "sizeDelta" vector2 fun sizeDelta r => { r with sizeDelta }]
    blank

end RectTransform

/-- A command with its arguments in ascending order of their names. -/
structure Action where
  command : String
  args : List (String × Json)

namespace Action

/-- An action without a command. -/
def blank : Action := ⟨"", []⟩

def decode : Decoder Action :=
  record "UiActionSpec"
    [.of "command" text fun command a => { a with command },
      .of "args" (dictionary value) fun args a => { a with args }]
    blank

end Action

structure Element where
  id : Option String
  name : Option String
  kind : ElementKind
  rectTransform : RectTransform
  text : Option String
  fontSize : Option Float32
  color : Option String
  sprite : Option String
  onClick : Option Action
  scripts : List Binding

namespace Element

/-- A text that says nothing. -/
def blank : Element :=
  ⟨none, none, .text, RectTransform.blank, none, none, none, none, none, []⟩

def decode : Decoder Element :=
  record "UiElementSpec"
    [.of "id" (optional Decoder.text) fun id e => { e with id },
      .of "name" (optional Decoder.text) fun name e => { e with name },
      (RecordField.of "type" (mapped Decoder.text ElementKind.ofWord)
        fun kind e => { e with kind }).orElse ["kind"],
      .of "rectTransform" RectTransform.decode fun rectTransform e => { e with rectTransform },
      .of "text" (optional Decoder.text) fun text e => { e with text },
      .of "fontSize" (optional single) fun fontSize e => { e with fontSize },
      .of "color" (optional Decoder.text) fun color e => { e with color },
      .of "sprite" (optional Decoder.text) fun sprite e => { e with sprite },
      .of "onClick" (optional Action.decode) fun onClick e => { e with onClick },
      (RecordField.of "scripts" (list Binding.decode) fun scripts e => { e with scripts }).orElse
        ["behaviors"]]
    blank

def displayName (e : Element) : String := Document.displayName e.name e.id "UIElement"

end Element

end GameScenes.Document
