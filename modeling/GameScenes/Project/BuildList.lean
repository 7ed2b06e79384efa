import GameScenes.Json.Encoder
import GameScenes.Json.Typed

/-!
# The list of scenes to build

A project lists the scene files that go into a build.  The list only grows, and a path is added
at most once.
-/

set_option autoImplicit false

namespace GameScenes

structure BuildEntry where
  path : String
  enabled : Bool
  deriving DecidableEq, Repr

/-- The scene files that go into a build, in their order. -/
structure BuildList where
  scenes : List BuildEntry
  deriving DecidableEq, Repr

namespace BuildList

/-- The list of a new project. -/
def empty : BuildList := ⟨[]⟩

def lists (list : BuildList) (path : String) : Bool := list.scenes.any (·.path == path)

/-- A list with one more path, which is enabled. -/
def add (list : BuildList) (path : String) : BuildList := ⟨list.scenes ++ [⟨path, true⟩]⟩

open Json

def toJson (list : BuildList) : Json :=
  .object [("scenes", ofList (fun entry : BuildEntry =>
    .object [("path", .text entry.path), ("enabled", .bool entry.enabled)]) list.scenes)]

/-- An entry as a file holds it. -/
def entryReader : TypedReader BuildEntry :=
  .record "BuildSceneEntry"
    [.needed "path" .text fun path entry => { entry with path },
      .needed "enabled" .flag fun enabled entry => { entry with enabled }]
    ⟨"", false⟩

/-- A list as a file holds it. -/
def reader : TypedReader BuildList :=
  .record "BuildSceneList" [.of "scenes" entryReader.list fun scenes _ => ⟨scenes⟩] empty

end BuildList

end GameScenes
