import GameScenes.Scene.Graph

/-!
# Scene artifacts

What is kept of a compiled scene.
-/

set_option autoImplicit false

namespace GameScenes.Scene

/-- The entities at the roots of the user interface. -/
structure UiRoots where
  canvas : EntityId
  eventSystem : EntityId
  deriving DecidableEq, Repr

/-- A compiled scene, with the version of the compiler and the digest of the document. -/
structure Artifact where
  name : String
  compilerVersion : String
  sourceDigest : String
  graph : Graph
  camera : Option EntityId
  uiRoots : Option UiRoots

/-- The version of the form in which artifacts are kept. -/
def formatVersion : Nat := 1

end GameScenes.Scene
