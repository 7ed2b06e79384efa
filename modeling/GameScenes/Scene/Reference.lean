import GameScenes.Scene.Graph
import GameScenes.Text.Case
import GameScenes.Text.Slashes

/-!
# Resolving references

A reference is tried in four ways, and the first way that finds an entity wins: along a path of
children, among the descendants, by a name or an identifier in the whole scene, and by a tag.  The
first two ways need an entity to start from.
-/

set_option autoImplicit false

namespace GameScenes.Scene

open Document (Hint Reference)

/-- The way in which an entity was found. -/
inductive Strategy where
  | childPath
  | descendantName
  | globalName
  | tag
  deriving DecidableEq, Repr

def Strategy.name : Strategy → String
  | childPath => "ChildPath"
  | descendantName => "DescendantName"
  | globalName => "GlobalName"
  | tag => "Tag"

/-- An entity that was found. -/
structure Resolution where
  entity : EntityId
  strategy : Strategy
  deriving DecidableEq, Repr

namespace Graph

/-- The parts of a path between its slashes. -/
def pathSegments (path : String) : List String :=
  (Text.pathParts path).filter (· ≠ "")

/-- The first child of an entity that has a property. -/
def childWhere? (g : Graph) (id : EntityId) (holds : Entity → Bool) : Option EntityId :=
  (g.children id).find? fun child =>
    match g.get? child with
    | some entity => holds entity
    | none => false

/-- The entity at the end of names of children. -/
def followNames? (g : Graph) : EntityId → List String → Option EntityId
  | id, [] => some id
  | id, name :: rest =>
      match g.childWhere? id (·.name == name) with
      | none => none
      | some child => followNames? g child rest

/-- The entity at the end of a path that starts at an entity. -/
def followPath? (g : Graph) (start : EntityId) (path : String) : Option EntityId :=
  match pathSegments path with
  | [] => none
  | names => g.followNames? start names

/-- The first descendant with a name, up to the case of letters. -/
def descendantNamed? (g : Graph) (start : EntityId) (name : String) : Option EntityId :=
  (g.descendants start).find? fun id =>
    match g.get? id with
    | some entity => Text.sameLetters entity.name name
    | none => false

/-- What one way of looking finds. -/
def findBy? (g : Graph) (start : Option EntityId) (key : String) : Strategy → Option EntityId
  | .childPath => start.bind fun id => g.followPath? id key
  | .descendantName => start.bind fun id => g.descendantNamed? id key
  | .globalName => (g.findByName? key).or (g.findBySourceId? key)
  | .tag => g.findByTag? key

/-- The ways of a reference in the order in which they are tried, with their keys. -/
def attempts (r : Reference) : List (Strategy × Option String) :=
  [(.childPath, r.path), (.descendantName, r.childName), (.globalName, r.globalName),
    (.tag, r.tag)]

/-- What one way finds with a key that is there and not blank. -/
def attempt? (g : Graph) (start : Option EntityId) :
    Strategy × Option String → Option Resolution
  | (_, none) => none
  | (strategy, some raw) =>
      let key := Text.trim raw
      if key = "" then none else (g.findBy? start key strategy).map fun id => ⟨id, strategy⟩

def resolveReference? (g : Graph) (start : Option EntityId) (r : Reference) :
    Option Resolution :=
  (attempts r).findSome? (g.attempt? start)

/-- The reference that a hint stands for: a text is tried in every way. -/
def referenceOf : Hint → Reference
  | .text s => ⟨some s, some s, some s, some s⟩
  | .structured r => r

def resolve? (g : Graph) (start : Option EntityId) (hint : Hint) : Option Resolution :=
  g.resolveReference? start (referenceOf hint)

end Graph

end GameScenes.Scene
