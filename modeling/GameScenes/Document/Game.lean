import GameScenes.Document.Scene

/-!
# Reading a game document

`Game.read` rejects a text only when it is too long, is no Json, holds a container that is too
large, or lacks the list of scenes.  Everything else that does not decode is kept as a fault
beside the game: one for a section, one for a scene in its place.
-/

set_option autoImplicit false

namespace GameScenes.Document

open Json

/-- The greatest number of characters of a document. -/
def maxCharacters : Nat := 10000000

/-- The greatest number of entries of one container of a document. -/
def maxEntries : Nat := 20000

/-- Why a document is rejected. -/
inductive Rejection where
  | oversized (characters : Nat)
  | truncated (place : Location)
  | malformed (place : Location) (message : String)
  | tooManyElements (path : String)
  | notAnObject (path : String) (found : String)
  | missingSection (name : String)

def Rejection.message : Rejection → String
  | oversized characters =>
      "spec input is " ++ Number.natText characters ++ " characters; the limit is " ++
        Number.natText maxCharacters
  | truncated place =>
      "spec input ends before the document is complete (" ++ place.text ++ ")"
  | malformed place message =>
      "spec input is not valid JSON at " ++ place.text ++ ": " ++ message
  | tooManyElements path =>
      "container at '" ++ path ++ "' holds more than " ++ Number.natText maxEntries ++ " entries"
  | notAnObject path found => "'" ++ path ++ "' must be an object, found " ++ found
  | missingSection name => "missing required section '" ++ name ++ "'"

/-- A part of a document that does not decode. -/
structure SectionFault where
  path : String
  message : String
  deriving DecidableEq, Repr

structure SceneFault where
  index : Nat
  name : String
  path : String
  message : String
  deriving DecidableEq, Repr

/-- A scene's fault in one sentence. -/
def SceneFault.text (fault : SceneFault) : String :=
  "scene #" ++ Number.natText fault.index ++ " (" ++ fault.name ++ ") is malformed at '" ++
    fault.path ++ "': " ++ fault.message

inductive SceneEntry where
  | parsed (scene : Scene)
  | malformed (fault : SceneFault)

def SceneEntry.scene? : SceneEntry → Option Scene
  | parsed scene => some scene
  | malformed _ => none

/-- A document with the faults of its sections. -/
structure Game where
  title : String
  settings : Settings
  tilesets : List Tileset
  scenes : List SceneEntry
  sectionFaults : List SectionFault

/-- What a section decodes to; a section that does not decode leaves a fault. -/
def decodeSection {α : Type} (decode : Decoder α) (path : String) (j : Json) :
    Option α × List SectionFault :=
  match decode j with
  | .ok a => (some a, [])
  | .error fault => (none, [⟨path ++ pathText fault.path, fault.cause.message⟩])

/-- The title from the metadata section or else from the member `title`. -/
def readTitle (game : Json) : String × List SectionFault :=
  let (fromMetadata, faults) := match game.get? "metadata" with
    | none => (none, [])
    | some section_ => decodeSection metadataTitle "game.metadata" section_
  let title := (fromMetadata.bind id).or ((game.get? "title").bind text?)
  match title with
  | none => ("Untitled", faults)
  | some t => (if Text.isBlankText t then "Untitled" else t, faults)

/-- The settings; usual ones in place of settings that are missing or do not decode. -/
def readSettings (game : Json) : Settings × List SectionFault :=
  match game.get? "settings" with
  | none => (Settings.blank, [])
  | some section_ =>
      let (settings, faults) := decodeSection Settings.decode "game.settings" section_
      (settings.getD Settings.blank, faults)

/-- The tilesets of a list from a position on, without those that do not decode. -/
def readTilesetItems : Nat → List Json → List Tileset × List SectionFault
  | _, [] => ([], [])
  | position, j :: rest =>
      let path := "game.tilesets[" ++ Number.natText position ++ "]"
      let (tileset, fault) := decodeSection Tileset.decode path j
      let (tilesets, faults) := readTilesetItems (position + 1) rest
      (tileset.toList ++ tilesets, fault ++ faults)

def readTilesets (game : Json) : List Tileset × List SectionFault :=
  match game.get? "tilesets" with
  | none => ([], [])
  | some (.array items) => readTilesetItems 0 items
  | some other => ([], [⟨"game.tilesets", "expected an array, found " ++ other.kind⟩])

/-- The scene at a position; a scene whose name is blank is named by its position. -/
def readScene (index : Nat) (j : Json) : SceneEntry :=
  let name := ((j.get? "name").bind text?).getD "<unnamed>"
  let path := "game.scenes[" ++ Number.natText index ++ "]"
  if !j.isObject then
    .malformed ⟨index, name, path, "expected an object, found " ++ j.kind⟩
  else
    match Scene.decode j with
    | .error fault =>
        .malformed ⟨index, name, path ++ pathText fault.path, fault.cause.message⟩
    | .ok scene =>
        if Text.isBlankText scene.name then
          .parsed { scene with name := "Scene" ++ Number.natText (index + 1) }
        else .parsed scene

namespace Game

/-- The game of a root object: its member `game`, or the root itself where there is none. -/
def section? (root : Json) : Except Rejection Json :=
  match root with
  | .object _ =>
      match root.get? "game" with
      | none => .ok root
      | some (.object members) => .ok (.object members)
      | some other => .error (.notAnObject "game" other.kind)
  | other => .error (.notAnObject "$" other.kind)

def ofJson (root : Json) : Except Rejection Game :=
  match section? root with
  | .error rejection => .error rejection
  | .ok game =>
      match game.get? "scenes" with
      | some (.array scenes) =>
          let (title, titleFaults) := readTitle game
          let (settings, settingsFaults) := readSettings game
          let (tilesets, tilesetFaults) := readTilesets game
          .ok
            { title
              settings
              tilesets
              scenes := scenes.mapIdx readScene
              sectionFaults := titleFaults ++ settingsFaults ++ tilesetFaults }
      | _ => .error (.missingSection "game.scenes")

/-- The rejection of a text that the reader stopped at. -/
def rejectionOf (cs : List Char) : Trouble → Rejection
  | .crowded path => .tooManyElements ("$" ++ pathText path.reverse)
  | .faulty fault =>
      if fault.kind.isEnd then .truncated (fault.location cs)
      else .malformed (fault.location cs) (fault.message cs)

def read (raw : String) : Except Rejection Game :=
  if maxCharacters < raw.length then .error (.oversized raw.length)
  else
    match readBounded maxEntries raw.toList with
    | .error trouble => .error (rejectionOf raw.toList trouble)
    | .ok root => ofJson root

end Game

end GameScenes.Document
