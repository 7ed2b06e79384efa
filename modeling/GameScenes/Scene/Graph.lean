import GameScenes.Scene.Component

/-!
# Scene graphs

A scene is a list of entities in the order of their creation.  Every entity knows its parent and
its children; `setParent?` refuses to close a cycle, so that the entities always form a forest.
Walks along parents and children are bounded by the number of entities.
-/

set_option autoImplicit false

namespace GameScenes.Scene

/-- The tag of an entity without one. -/
def untagged : String := "Untagged"

def mainCameraTag : String := "MainCamera"

structure Entity where
  id : EntityId
  name : String
  /-- The identifier that the document gives. -/
  sourceId : Option String
  tag : String
  layer : Nat
  parent : Option EntityId
  children : List EntityId
  transform : LocalTransform
  components : Components

/-- A new entity without a parent. -/
def Entity.blank (id : EntityId) (name : String) : Entity :=
  { id, name, sourceId := none, tag := untagged, layer := 0, parent := none, children := [],
    transform := LocalTransform.identity, components := Components.none }

/-- The entities of a scene in the order of their creation. -/
structure Graph where
  entities : Array Entity

namespace Graph

/-- The scene without entities. -/
def empty : Graph := ⟨#[]⟩

def size (g : Graph) : Nat := g.entities.size

def get? (g : Graph) (id : EntityId) : Option Entity := g.entities[id]?

/-- A graph with one entity changed; nothing happens when there is none. -/
def modify (g : Graph) (id : EntityId) (change : Entity → Entity) : Graph :=
  ⟨g.entities.modify id change⟩

/-- The children of an entity; an entity that does not exist has none. -/
def children (g : Graph) (id : EntityId) : List EntityId :=
  match g.get? id with
  | some entity => entity.children
  | none => []

def parent? (g : Graph) (id : EntityId) : Option EntityId := (g.get? id).bind (·.parent)

/-! ## Ancestors and descendants -/

/-- The first ancestors of an entity, from its parent on. -/
def ancestorsWithin (g : Graph) : Nat → EntityId → List EntityId
  | 0, _ => []
  | bound + 1, id =>
      match g.parent? id with
      | none => []
      | some parent => parent :: ancestorsWithin g bound parent

def ancestors (g : Graph) (id : EntityId) : List EntityId := g.ancestorsWithin g.size id

/-- Whether an entity is a proper ancestor of another. -/
def isAncestor (g : Graph) (ancestor id : EntityId) : Bool := (g.ancestors id).contains ancestor

/-- The descendants of an entity down to a depth. -/
def descendantsWithin (g : Graph) : Nat → EntityId → List EntityId
  | 0, _ => []
  | bound + 1, id => (g.children id).flatMap fun child => child :: descendantsWithin g bound child

/-- The descendants of an entity: every child is followed by its own descendants. -/
def descendants (g : Graph) (id : EntityId) : List EntityId := g.descendantsWithin g.size id

/-! ## Building -/

/-- A graph with an entity moved below another, as its last child. -/
def link (g : Graph) (child parent : EntityId) : Graph :=
  let detached := match g.parent? child with
    | some previous =>
        g.modify previous fun e => { e with children := e.children.filter (· != child) }
    | none => g
  (detached.modify child fun e => { e with parent := some parent }).modify parent
    fun e => { e with children := e.children ++ [child] }

/-- A graph with an entity moved below another.  Refused unless both exist and the new parent is
neither the entity itself nor one of its descendants. -/
def setParent? (g : Graph) (child parent : EntityId) : Option Graph :=
  if child = parent || g.isAncestor child parent || (g.get? parent).isNone
      || (g.get? child).isNone then
    none
  else some (g.link child parent)

/-- A graph with a new entity, below another if one is given and exists. -/
def spawn (g : Graph) (name : String) (parent : Option EntityId) : Graph × EntityId :=
  let id := g.size
  let grown : Graph := ⟨g.entities.push (Entity.blank id name)⟩
  match parent with
  | none => (grown, id)
  | some parent => ((grown.setParent? id parent).getD grown, id)

/-! ## Finding -/

/-- The first entity with a property. -/
def findId? (g : Graph) (holds : Entity → Bool) : Option EntityId :=
  (g.entities.find? holds).map (·.id)

def findByName? (g : Graph) (name : String) : Option EntityId :=
  g.findId? fun entity => entity.name == name

/-- The first entity with an identifier that the document gives. -/
def findBySourceId? (g : Graph) (sourceId : String) : Option EntityId :=
  g.findId? fun entity => entity.sourceId == some sourceId

def findByTag? (g : Graph) (tag : String) : Option EntityId :=
  g.findId? fun entity => entity.tag == tag

def primaryCamera? (g : Graph) : Option EntityId :=
  g.findId? fun entity =>
    match entity.components.camera with
    | some camera => camera.primary
    | none => false

/-! ## Places in the world -/

/-- The pose of an entity below at most `bound - 1` ancestors. -/
def worldPoseWithin (g : Graph) : Nat → EntityId → Pose
  | 0, _ => Pose.identity
  | bound + 1, id =>
      match g.get? id with
      | none => Pose.identity
      | some entity =>
          let base := match entity.parent with
            | none => Pose.identity
            | some parent => worldPoseWithin g bound parent
          base.andThen entity.transform.pose

def worldPose (g : Graph) (id : EntityId) : Pose := g.worldPoseWithin g.size id

/-- The extent of an entity's picture in the world. -/
def visualBounds? (g : Graph) (id : EntityId) : Option Bounds :=
  match g.get? id with
  | none => none
  | some entity =>
      entity.components.visual.map fun visual => (g.worldPose id).applyBounds visual.localBounds

/-- The least rectangle that holds all of some rectangles. -/
def unionAll? : List Bounds → Option Bounds
  | [] => none
  | b :: rest => some (rest.foldl Bounds.union b)

/-- The extent of an entity's colliders in the world. -/
def colliderBounds? (g : Graph) (id : EntityId) : Option Bounds :=
  match g.get? id with
  | none => none
  | some entity =>
      let pose := g.worldPose id
      unionAll? (entity.components.colliders.map fun c => pose.applyBounds c.localBounds)

/-- A graph with an entity moved by a displacement of the world. -/
def translateWorld (g : Graph) (id : EntityId) (delta : Vector2) : Graph :=
  let moved := match g.parent? id with
    | some parent => (g.worldPose parent).pullVector delta
    | none => delta
  g.modify id fun e =>
    let p := e.transform.position
    { e with transform := { e.transform with position := ⟨p.x + moved.x, p.y + moved.y, p.z⟩ } }

end Graph

end GameScenes.Scene
