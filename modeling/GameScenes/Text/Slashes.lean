/-!
# Parts between slashes

A path is a text whose parts stand between slashes.  Every text has at least one part, and slashes
next to each other, in front or behind stand for empty parts.
-/

set_option autoImplicit false

namespace GameScenes.Text

/-- The parts between slashes, after the characters in `current`, which stand in reverse. -/
def splitSlashes (current : List Char) : List Char → List (List Char)
  | [] => [current.reverse]
  | c :: cs =>
      if c = '/' then current.reverse :: splitSlashes [] cs else splitSlashes (c :: current) cs

def pathParts (path : String) : List String :=
  (splitSlashes [] path.toList).map String.ofList

end GameScenes.Text
