import GameScenes.Behavior.Catalog
import GameScenes.Text.Blank
import GameScenes.Text.Quoted

/-!
# Looking up behaviors

A behavior is named by its simple name or by its module and its name.  Where several modules
declare one simple name, the first of them in the order of precedence is meant; if no module of
that order declares it, the simple name is ambiguous.  A name without an exact match is taken up
to the case of letters, and of several such names the least one is meant.
-/

set_option autoImplicit false

namespace GameScenes.Behavior

structure Registered where
  module : String
  descriptor : Descriptor

namespace Registered

/-- The name of the behavior without its module. -/
def simpleName (r : Registered) : String := r.descriptor.name

def qualifiedName (r : Registered) : String := r.module ++ "::" ++ r.descriptor.name

end Registered

/-- Why a name does not stand for a behavior. -/
inductive LookupFault where
  | unknown (name : String)
  | ambiguous (name : String) (candidates : List String)
  deriving DecidableEq, Repr

def LookupFault.message : LookupFault → String
  | unknown name => "no behavior named '" ++ name ++ "' is registered"
  | ambiguous name candidates =>
      "behavior name '" ++ name ++ "' is ambiguous between " ++ Text.quoteAll candidates ++
        "; qualify it as module::Name or add a precedence entry"

/-- The behaviors of all catalogs, no two of which have the same qualified name, and the modules
in the order of precedence. -/
structure Index where
  behaviors : List Registered
  precedence : List String

namespace Index

def registeredOf (catalogs : List Catalog) : List Registered :=
  catalogs.flatMap fun catalog => catalog.descriptors.map fun d => ⟨catalog.module, d⟩

/-- Behaviors without those whose qualified name occurs before. -/
def firstOfEach (seen : List String) : List Registered → List Registered
  | [] => []
  | r :: rest =>
      if seen.contains r.qualifiedName then firstOfEach seen rest
      else r :: firstOfEach (r.qualifiedName :: seen) rest

def ofCatalogs (catalogs : List Catalog) (precedence : List String) : Index :=
  ⟨firstOfEach [] (registeredOf catalogs), precedence⟩

def size (index : Index) : Nat := index.behaviors.length

/-- The lesser of two texts. -/
def lesser (a b : String) : String := if b < a then b else a

def least? : List String → Option String
  | [] => none
  | s :: rest => some (rest.foldl lesser s)

/-- The name among `names` that a name stands for: itself, or else the least one that is equal up
to the case of letters. -/
def spelling? (names : List String) (name : String) : Option String :=
  if names.contains name then some name
  else least? (names.filter fun n => Text.sameLetters n name)

def group (index : Index) (simpleName : String) : List Registered :=
  index.behaviors.filter (·.simpleName == simpleName)

/-- The behavior of a group that is meant by their common name. -/
def settle? (index : Index) : List Registered → Option Registered
  | [single] => some single
  | several =>
      index.precedence.findSome? fun module => several.find? (·.module == module)

def lookupQualified (index : Index) (name : String) : Except LookupFault Registered :=
  match spelling? (index.behaviors.map (·.qualifiedName)) name with
  | none => .error (.unknown name)
  | some exact_ =>
      match index.behaviors.find? (·.qualifiedName == exact_) with
      | some r => .ok r
      | none => .error (.unknown name)

def lookupSimple (index : Index) (name : String) : Except LookupFault Registered :=
  match spelling? (index.behaviors.map (·.simpleName)) name with
  | none => .error (.unknown name)
  | some exact_ =>
      let group := index.group exact_
      match index.settle? group with
      | some r => .ok r
      | none => .error (.ambiguous name (group.map (·.qualifiedName)))

/-- The behavior that a name stands for. -/
def lookup (index : Index) (raw : String) : Except LookupFault Registered :=
  let name := Text.trim raw
  if Text.mentions name "::" then index.lookupQualified name else index.lookupSimple name

end Index

end GameScenes.Behavior
