import GameScenes.Behavior.Instance
import GameScenes.Text.Case

/-!
# Catalogs of behaviors

A catalog lists the behaviors of one module of the host.  A behavior takes the values of its
fields itself: it may refuse a value of the right type with a reason.
-/

set_option autoImplicit false

namespace GameScenes.Behavior

/-- How a behavior takes a value of the right type for a field: what becomes of the instance, and
the reason for which the value is refused, if it is. -/
abbrev Binder := Instance → FieldSchema → FieldValue → Instance × Option String

/-- Every value is stored. -/
def acceptAll : Binder := fun i schema value => (i.set schema.name value .explicit, none)

/-- Numbers below zero are refused. -/
def refuseNegative : Binder := fun i schema value =>
  if value.isNegative then (i, some (schema.name ++ " must not be negative"))
  else acceptAll i schema value

/-- A behavior with the fields that it declares. -/
structure Descriptor where
  name : String
  fields : List FieldSchema
  bind : Binder

/-- The field with a name: the exact one, or else the first one up to the case of letters. -/
def Descriptor.field? (d : Descriptor) (name : String) : Option FieldSchema :=
  (d.fields.find? (·.name == name)).or (d.fields.find? fun f => Text.sameLetters f.name name)

structure Catalog where
  module : String
  descriptors : List Descriptor

def builtinModule : String := "builtin"

def describe (name : String) (bind : Binder) (fields : List (String × FieldKind)) :
    Descriptor :=
  ⟨name, fields.map fun (field, kind) => ⟨field, kind⟩, bind⟩

/-- Behaviors that documents of platform games usually name. -/
def builtinCatalog : Catalog where
  module := builtinModule
  descriptors :=
    [describe "PlayerController" refuseNegative
        [("moveSpeed", .float), ("jumpForce", .float), ("maxJumps", .int),
          ("groundMask", .layerMask), ("groundCheck", .component .transform),
          ("groundCheckRadius", .float), ("body", .component .body),
          ("spriteRenderer", .component .visual)],
      describe "PatrolEnemy" refuseNegative
        [("speed", .float), ("patrolDistance", .float), ("damage", .int),
          ("startFacingRight", .bool), ("groundMask", .layerMask),
          ("groundCheck", .component .transform), ("body", .component .body)],
      describe "Collectible" acceptAll
        [("scoreValue", .int), ("collectorTag", .text), ("spinSpeed", .float)],
      describe "Hazard" refuseNegative
        [("damage", .int), ("respawnPoint", .entity), ("knockback", .vector2)],
      describe "CameraFollow" refuseNegative
        [("target", .component .transform), ("offset", .vector3), ("smoothTime", .float),
          ("minBounds", .vector2), ("maxBounds", .vector2)],
      describe "ScoreDisplay" acceptAll
        [("prefix", .text), ("label", .component .ui)],
      describe "GameManager" refuseNegative
        [("startingLives", .int), ("nextScene", .text), ("player", .entity),
          ("scoreDisplay", .entity)]]

end GameScenes.Behavior
