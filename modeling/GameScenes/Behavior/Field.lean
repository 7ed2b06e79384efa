import GameScenes.Geometry.Vector
import GameScenes.Scene.Color
import GameScenes.Scene.EntityId

/-!
# Fields of behaviors

A behavior declares typed fields; a value that is stored in a field carries its own type.
-/

set_option autoImplicit false

namespace GameScenes.Behavior

/-- The kinds of components that a field may ask of an entity. -/
inductive ComponentKind where
  | transform
  | body
  | visual
  | collider
  | ui
  deriving DecidableEq, Repr

def ComponentKind.name : ComponentKind → String
  | transform => "Transform"
  | body => "Body"
  | visual => "Visual"
  | collider => "Collider"
  | ui => "Ui"

inductive FieldKind where
  | int
  | float
  | bool
  | text
  | vector2
  | vector3
  | color
  | layerMask
  | entity
  | component (kind : ComponentKind)
  deriving DecidableEq, Repr

/-- The values of fields.  Whole numbers have 64 bits. -/
inductive FieldValue where
  | int (value : Int)
  | float (value : Float)
  | bool (value : Bool)
  | text (value : String)
  | vector2 (value : Vector2)
  | vector3 (value : Vector3)
  | color (value : Color)
  | layerMask (mask : UInt32)
  | entity (id : EntityId)
  | component (entity : EntityId) (kind : ComponentKind)

def FieldValue.kind : FieldValue → FieldKind
  | int _ => .int
  | float _ => .float
  | bool _ => .bool
  | text _ => .text
  | vector2 _ => .vector2
  | vector3 _ => .vector3
  | color _ => .color
  | layerMask _ => .layerMask
  | entity _ => .entity
  | component _ kind => .component kind

/-- Whether a value is a number below zero. -/
def FieldValue.isNegative : FieldValue → Bool
  | int value => value < 0
  | float value => value < 0
  | _ => false

structure FieldSchema where
  name : String
  kind : FieldKind
  deriving DecidableEq, Repr

/-- Whether a document gave a value or a convention did. -/
inductive BindingSource where
  | explicit
  | autoWired
  deriving DecidableEq, Repr

structure FieldBinding where
  value : FieldValue
  source : BindingSource

end GameScenes.Behavior
