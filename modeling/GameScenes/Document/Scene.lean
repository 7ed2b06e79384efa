import GameScenes.Document.Interface
import GameScenes.Document.Tiles

/-!
# Scenes and settings in documents
-/

set_option autoImplicit false

namespace GameScenes.Document

open Json Json.Decoder

/-- The size of a camera's view when the document gives no usable one. -/
def usualCameraSize : Float32 := 5

structure Camera where
  orthographic : Bool
  size : Float32
  position : Vector3

namespace Camera

/-- A camera in front of the origin. -/
def blank : Camera := ⟨true, usualCameraSize, ⟨0, 0, -10⟩⟩

def decode : Decoder Camera :=
  record "CameraSpec"
    [.of "orthographic" flag fun orthographic c => { c with orthographic },
      .of "size" single fun size c => { c with size },
      .of "position" (record "CameraPositionSpec" spaceFields blank.position)
        fun position c => { c with position }]
    blank

end Camera

structure Scene where
  name : String
  camera : Camera
  backgroundColor : Option String
  uiSettings : CanvasSettings
  gameObjects : List Object
  tilesets : List Tileset
  tilemaps : List Tilemap
  ui : List Element

namespace Scene

/-- A scene without anything. -/
def blank : Scene := ⟨"", Camera.blank, none, CanvasSettings.blank, [], [], [], []⟩

def decode : Decoder Scene :=
  record "SceneSpec"
    [.of "name" text fun name s => { s with name },
      .of "camera" Camera.decode fun camera s => { s with camera },
      .of "backgroundColor" (optional text) fun backgroundColor s => { s with backgroundColor },
      .of "uiSettings" CanvasSettings.decode fun uiSettings s => { s with uiSettings },
      (RecordField.of "gameObjects" (list Object.decode)
        fun gameObjects s => { s with gameObjects }).orElse ["entities"],
      .of "tilesets" (list Tileset.decode) fun tilesets s => { s with tilesets },
      .of "tilemaps" (list Tilemap.decode) fun tilemaps s => { s with tilemaps },
      .of "ui" (list Element.decode) fun ui s => { s with ui }]
    blank

end Scene

/-- The pixels that make one unit of length when the document gives no usable number. -/
def usualPixelsPerUnit : Float32 := 100

structure Settings where
  tags : List String
  layers : List String
  sortingLayers : List String
  defaultPixelsPerUnit : Option Float32

namespace Settings

/-- Settings that say nothing. -/
def blank : Settings := ⟨[], [], [], none⟩

def decode : Decoder Settings :=
  record "SettingsSpec"
    [.of "tags" (list text) fun tags s => { s with tags },
      .of "layers" (list text) fun layers s => { s with layers },
      .of "sortingLayers" (list text) fun sortingLayers s => { s with sortingLayers },
      .of "defaultPixelsPerUnit" (optional single)
        fun defaultPixelsPerUnit s => { s with defaultPixelsPerUnit }]
    blank

/-- The pixels that make one unit of length. -/
def pixelsPerUnit (s : Settings) : Float32 :=
  match s.defaultPixelsPerUnit with
  | some ppu => if Geometry.isPositive ppu then ppu else usualPixelsPerUnit
  | none => usualPixelsPerUnit

end Settings

/-- The title that a metadata section gives. -/
def metadataTitle : Decoder (Option String) :=
  record "MetadataSpec" [.of "title" (optional text) fun title _ => title] none

end GameScenes.Document
