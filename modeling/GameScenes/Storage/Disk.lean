import GameScenes.Text.Slashes

/-!
# Disks

A disk holds folders and files at places.  A place is given by the names on the way from the root
folder; a path is a text that leads to a place, from the root or from a working folder.  Following
a path asks for a folder before every step, so that a path through something that is missing
leads nowhere even when it turns back.
-/

set_option autoImplicit false

namespace GameScenes.Storage

/-- The names on the way from the root folder to a place. -/
abbrev Place := List String

inductive Entry where
  | folder
  | file (content : ByteArray)

/-- Why a disk refuses something. -/
inductive DiskFault where
  | notFound
  | alreadyThere
  | notFolder
  | isFolder
  | nameTooLong
  /-- A path with the character that ends texts of the host. -/
  | endInPath
  | notText
  /-- Something outside of the disk's own rules, in the words of the host. -/
  | refused (message : String)
  deriving DecidableEq, Repr

def DiskFault.message : DiskFault → String
  | notFound => "No such file or directory (os error 2)"
  | alreadyThere => "File exists (os error 17)"
  | notFolder => "Not a directory (os error 20)"
  | isFolder => "Is a directory (os error 21)"
  | nameTooLong => "File name too long (os error 36)"
  | endInPath => "file name contained an unexpected NUL byte"
  | notText => "stream did not contain valid UTF-8"
  | refused message => message

/-- The folders and files below the root folder. -/
structure Disk where
  entries : List (Place × Entry)

namespace Disk

/-- A disk without folders and files. -/
def empty : Disk := ⟨[]⟩

/-- What is at a place; at the root there is always a folder. -/
def get? (disk : Disk) (place : Place) : Option Entry :=
  if place = [] then some .folder else disk.entries.lookup place

def erase (disk : Disk) (place : Place) : Disk :=
  ⟨disk.entries.filter fun entry => entry.1 != place⟩

def put (disk : Disk) (place : Place) (entry : Entry) : Disk :=
  ⟨(place, entry) :: (disk.erase place).entries⟩

theorem lookup_filter_ne (entries : List (Place × Entry)) (place other : Place) :
    (entries.filter fun entry => entry.1 != place).lookup other =
      if other = place then none else entries.lookup other := by
  induction entries with
  | nil => by_cases same : other = place <;> simp [same]
  | cons entry rest ih =>
      obtain ⟨key, value⟩ := entry
      by_cases removed : key = place
      · subst removed
        by_cases same : other = key
        · simp [same] at ih ⊢
          exact ih
        · have apart : (other == key) = false := by simpa using same
          simpa [List.lookup_cons, same, apart] using ih
      · by_cases found : other = key
        · subst found
          simp [removed]
        · have apart : (other == key) = false := by simpa using found
          simpa [List.lookup_cons, removed, apart] using ih

/-- Erasing changes what is at one place. -/
theorem get?_erase (disk : Disk) (place other : Place) (below : other ≠ []) :
    (disk.erase place).get? other = if other = place then none else disk.get? other := by
  simp [get?, erase, below, lookup_filter_ne]

/-- Putting changes what is at one place. -/
theorem get?_put (disk : Disk) (place : Place) (entry : Entry) (other : Place)
    (below : other ≠ []) :
    (disk.put place entry).get? other = if other = place then some entry else disk.get? other := by
  by_cases same : other = place
  · subst same
    simp [get?, put, below]
  · have apart : (other == place) = false := by simpa using same
    simp [get?, put, erase, below, List.lookup_cons, same, apart, lookup_filter_ne]

def requireFolder (disk : Disk) (place : Place) : Except DiskFault Unit :=
  match disk.get? place with
  | some .folder => .ok ()
  | some (.file _) => .error .notFolder
  | none => .error .notFound

def content (disk : Disk) (place : Place) : Except DiskFault ByteArray :=
  match disk.get? place with
  | some (.file bytes) => .ok bytes
  | some .folder => .error .isFolder
  | none => .error .notFound

def isFile (disk : Disk) (place : Place) : Bool :=
  match disk.get? place with
  | some (.file _) => true
  | _ => false

end Disk

/-! ## Paths -/

/-- The greatest number of bytes in a name. -/
def maxNameBytes : Nat := 255

/-- The greatest number of bytes in a path. -/
def maxPathBytes : Nat := 4095

/-- Asks for a path that the host can be told. -/
def checkPath (path : String) : Except DiskFault Unit :=
  if path.toList.contains '\x00' then .error .endInPath
  else if maxPathBytes < path.utf8ByteSize then .error .nameTooLong
  else .ok ()

/-- Whether a path starts at the root folder. -/
def isAbsolute (path : String) : Bool := path.toList.head? == some '/'

/-- A path that goes on with another one, which starts anew when it is absolute. -/
def joinPath (base path : String) : String :=
  if isAbsolute path || base == "" then path
  else if base.toList.getLast? == some '/' then base ++ path
  else base ++ "/" ++ path

/-- The place one part of a path further on. -/
def enter (place : Place) (part : String) : Place :=
  if part = "" ∨ part = "." then place
  else if part = ".." then place.dropLast
  else place ++ [part]

def startOf (working : Place) (path : String) : Place :=
  if isAbsolute path then [] else working

/-- The folders from the root on down to a place, which is the last of them. -/
def wayTo (place : Place) : List Place := (List.range (place.length + 1)).map place.take

/-- The places on the way along parts, each with the folders above it. -/
def placesAlong (place : Place) : List String → List Place
  | [] => wayTo place
  | part :: rest => wayTo place ++ placesAlong (enter place part) rest

/-- The places that following a path may ask for. -/
def placesOn (working : Place) (path : String) : List Place :=
  placesAlong (startOf working path) (Text.pathParts path)

/-- The place that parts lead to from a place. -/
def Disk.follow (disk : Disk) : Place → List String → Except DiskFault Place
  | place, [] => .ok place
  | place, part :: rest =>
      match disk.requireFolder place with
      | .error fault => .error fault
      | .ok () =>
          if maxNameBytes < part.utf8ByteSize then .error .nameTooLong
          else disk.follow (enter place part) rest

def Disk.locate (disk : Disk) (working : Place) (path : String) : Except DiskFault Place :=
  match checkPath path with
  | .error fault => .error fault
  | .ok () =>
      if path = "" then .error .notFound
      else disk.follow (startOf working path) (Text.pathParts path)

end GameScenes.Storage
