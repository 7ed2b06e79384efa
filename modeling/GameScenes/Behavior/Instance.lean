import GameScenes.Behavior.Field
import GameScenes.Text.Dictionary

/-!
# Behaviors attached to entities
-/

set_option autoImplicit false

namespace GameScenes.Behavior

/-- A behavior attached to an entity, with the values of the fields that are set. -/
structure Instance where
  module : String
  name : String
  fields : Dictionary FieldBinding

namespace Instance

def qualifiedName (i : Instance) : String := i.module ++ "::" ++ i.name

def set (i : Instance) (field : String) (value : FieldValue) (source : BindingSource) :
    Instance :=
  { i with fields := i.fields.insert field ⟨value, source⟩ }

def get? (i : Instance) (field : String) : Option FieldValue :=
  (i.fields.get? field).map (·.value)

def isSet (i : Instance) (field : String) : Bool := i.fields.contains field

/-- Where the value of a field came from. -/
def source? (i : Instance) (field : String) : Option BindingSource :=
  (i.fields.get? field).map (·.source)

end Instance

end GameScenes.Behavior
