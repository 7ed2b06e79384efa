import GameScenes.Asset.Path

/-!
# Importing assets

An asset is looked for under its canonical path in the project and then under its file name in a
second place.  `ImportCache` remembers what was found, so that every canonical path is imported
at most once; importing also says which candidates the store was asked for.
-/

set_option autoImplicit false

namespace GameScenes

/-- Width and height in pixels. -/
abbrev PixelSize := UInt32 × UInt32

/-- A place where an asset may be. -/
inductive AssetCandidate where
  | project (path : String)
  | secondary (name : String)
  deriving DecidableEq, Repr

/-- The kind of place where an asset was found. -/
inductive AssetOrigin where
  | project
  | secondary
  deriving DecidableEq, Repr

/-- A place that can be asked for images: what it answers, and how it names a candidate. -/
structure AssetStore where
  /-- The size of the image at a candidate, or nothing where there is none. -/
  probe : AssetCandidate → Except AssetFault (Option PixelSize)
  describe : AssetCandidate → String

/-- The usual name of a candidate. -/
def AssetCandidate.describe : AssetCandidate → String
  | project path => path
  | secondary name => "<secondary>/" ++ name

/-- An asset that was found. -/
structure ImportedAsset where
  canonicalPath : String
  origin : AssetOrigin
  pixelSize : PixelSize
  deriving DecidableEq, Repr

/-- The assets found so far, under their canonical paths. -/
structure ImportCache where
  imported : List (String × ImportedAsset)

/-- What importing one asset comes to: the asset or a fault, the cache afterwards, and the
candidates that the store was asked for, in order. -/
structure ImportStep where
  result : Except AssetFault ImportedAsset
  cache : ImportCache
  asked : List AssetCandidate

/-- Looks for the asset with a canonical path, first in the project. -/
def AssetStore.find (store : AssetStore) (raw canonicalPath : String) :
    Except AssetFault ImportedAsset × List AssetCandidate :=
  let primary := AssetCandidate.project canonicalPath
  let secondary := AssetCandidate.secondary (AssetPath.fileName canonicalPath)
  match store.probe primary with
  | .error fault => (.error fault, [primary])
  | .ok (some size) => (.ok ⟨canonicalPath, .project, size⟩, [primary])
  | .ok none =>
      match store.probe secondary with
      | .error fault => (.error fault, [primary, secondary])
      | .ok (some size) => (.ok ⟨canonicalPath, .secondary, size⟩, [primary, secondary])
      | .ok none =>
          (.error (.notFound raw [store.describe primary, store.describe secondary]),
            [primary, secondary])

namespace ImportCache

/-- A cache without assets. -/
def empty : ImportCache := ⟨[]⟩

/-- The number of assets imported. -/
def importCount (cache : ImportCache) : Nat := cache.imported.length

def isImported (cache : ImportCache) (canonicalPath : String) : Bool :=
  (cache.imported.lookup canonicalPath).isSome

/-- The asset that a spelling names. -/
def importAsset (cache : ImportCache) (store : AssetStore) (raw : String) : ImportStep :=
  match AssetPath.canonical raw with
  | .error fault => ⟨.error fault, cache, []⟩
  | .ok canonicalPath =>
      match cache.imported.lookup canonicalPath with
      | some asset => ⟨.ok asset, cache, []⟩
      | none =>
          match store.find raw canonicalPath with
          | (.error fault, asked) => ⟨.error fault, cache, asked⟩
          | (.ok asset, asked) =>
              ⟨.ok asset, ⟨(canonicalPath, asset) :: cache.imported⟩, asked⟩

end ImportCache

end GameScenes
