/-!
# Identifiers of entities
-/

set_option autoImplicit false

namespace GameScenes

/-- An entity is identified by its place in the order of creation. -/
abbrev EntityId := Nat

end GameScenes
