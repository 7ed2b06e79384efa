import GameScenes.Text.Blank

/-!
# Names of scene files

A scene is kept in a file named after it.  Only ASCII letters and digits, the blank, the
underscore and the hyphen stay as they are in a file name.
-/

set_option autoImplicit false

namespace GameScenes.SceneFile

/-- Whether a character is an ASCII letter or digit. -/
def isLetterOrDigit (c : Char) : Bool :=
  ('a' ≤ c && c ≤ 'z') || ('A' ≤ c && c ≤ 'Z') || ('0' ≤ c && c ≤ '9')

/-- A character as it stands in a file name. -/
def safeChar (c : Char) : Char :=
  if isLetterOrDigit c || c = ' ' || c = '_' || c = '-' then c else '_'

def safeName (name : String) : String :=
  let cs := Text.trimChars ((Text.trimChars name.toList).map safeChar)
  if cs.all (· = '_') then "Scene" else String.ofList cs

def fileName (name : String) : String := safeName name ++ ".scene.json"

/-- The path of a scene's file inside its project. -/
def relativePath (name : String) : String := "Assets/Scenes/" ++ fileName name

end GameScenes.SceneFile
