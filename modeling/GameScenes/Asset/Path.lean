import GameScenes.Text.Blank
import GameScenes.Text.Quoted
import GameScenes.Text.Slashes

/-!
# Paths of assets

Inside a project an asset is named by segments below the folder `Assets`.  A document may spell
the path with backslashes, empty segments and dots, with or without the folder in front; all
these spellings have one canonical path.
-/

set_option autoImplicit false

namespace GameScenes

/-- Why an asset cannot be used. -/
inductive AssetFault where
  | invalidPath (path : String) (reason : String)
  | notFound (path : String) (tried : List String)
  | unreadable (path : String) (message : String)
  deriving DecidableEq, Repr

def AssetFault.message : AssetFault → String
  | invalidPath path reason => "asset path '" ++ path ++ "' is invalid: " ++ reason
  | notFound path tried =>
      "asset '" ++ path ++ "' not found (tried " ++ Text.quoteAll tried ++ ")"
  | unreadable path message => "asset '" ++ path ++ "' could not be read: " ++ message

namespace AssetPath

def root : List Char := ['A', 's', 's', 'e', 't', 's']

/-- A backslash separates segments as a slash does. -/
def unifySeparator (c : Char) : Char := if c = '\\' then '/' else c

/-- Whether a part names something. -/
def isSegment (part : List Char) : Bool := part ≠ [] && part ≠ ['.']

def segments (raw : String) : List (List Char) :=
  (Text.splitSlashes [] ((Text.trimChars raw.toList).map unifySeparator)).filter isSegment

/-- Segments with slashes between them. -/
def join (parts : List (List Char)) : String :=
  String.ofList (List.intercalate ['/'] parts)

def canonicalSegments (raw : String) : Except AssetFault (List (List Char)) :=
  match segments raw with
  | [] => .error (.invalidPath raw "path is empty")
  | first :: rest =>
      if (first :: rest).contains ['.', '.'] then
        .error (.invalidPath raw "path must not contain '..'")
      else if first.contains ':' then .error (.invalidPath raw "path must be relative")
      else if first = root then .ok (first :: rest)
      else .ok (root :: first :: rest)

def canonical (raw : String) : Except AssetFault String :=
  (canonicalSegments raw).map join

/-- The last segment of a canonical path. -/
def fileName (path : String) : String :=
  String.ofList ((Text.splitSlashes [] path.toList).getLast?.getD [])

end AssetPath

end GameScenes
