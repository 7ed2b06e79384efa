import GameScenes.Asset.DiskStore
import GameScenes.Proofs.Asset.Paths
import GameScenes.Proofs.Project.Untouched

/-!
# Images that a disk holds

Whether a store on a disk finds an image depends on the folders of the disk and on the files whose
names tell the form of an image (`finds_store`).  Of a file with another name it may say that it
cannot be read or that it is missing; it never gives a size for it.
-/

set_option autoImplicit false

namespace GameScenes

open Storage (Disk Place IsPlain joinPath placeOf)

/-! ## Stores that find the same images -/

/-- That two stores find the same images, whatever they say where they find none. -/
def AssetStore.FindsAs (store other : AssetStore) : Prop :=
  ∀ raw path, AssetPath.canonical raw = .ok path →
    (store.find raw path).1.toOption = (other.find raw path).1.toOption

theorem AssetStore.FindsAs.refl (store : AssetStore) : store.FindsAs store := fun _ _ _ => rfl

/-- Stores that find the same images import the same assets. -/
theorem ImportCache.importAsset_of_findsAs {store other : AssetStore} (finds : store.FindsAs other)
    (cache : ImportCache) (raw : String) :
    (cache.importAsset store raw).result.toOption = (cache.importAsset other raw).result.toOption ∧
      (cache.importAsset store raw).cache = (cache.importAsset other raw).cache := by
  simp only [ImportCache.importAsset]
  cases spelled : AssetPath.canonical raw with
  | error fault => exact ⟨rfl, rfl⟩
  | ok path =>
      dsimp only
      cases cache.imported.lookup path with
      | some asset => exact ⟨rfl, rfl⟩
      | none =>
          have same := finds raw path spelled
          dsimp only
          generalize store.find raw path = first at same ⊢
          generalize other.find raw path = second at same ⊢
          obtain ⟨left, asked⟩ := first
          obtain ⟨right, others⟩ := second
          dsimp only at same
          cases left with
          | error fault =>
              cases right with
              | error cause => exact ⟨rfl, rfl⟩
              | ok asset => cases same
          | ok asset =>
              cases right with
              | error cause => cases same
              | ok found =>
                  cases same
                  exact ⟨rfl, rfl⟩

/-! ## Canonical paths -/

namespace AssetPath

/-- A canonical path is relative, and it ends in a plain name. -/
theorem canonical_plain {raw path : String} (spelled : canonical raw = .ok path) :
    Storage.isAbsolute path = false ∧
      (Text.splitSlashes [] path.toList).getLast? = some (fileName path).toList ∧
      IsPlain (fileName path) := by
  obtain ⟨front, last, rfl, sound, -⟩ := exists_names spelled
  have own := sound.names last (by simp)
  refine ⟨?_, ?_, ?_⟩
  · rcases join_root sound with top | ⟨rest, below⟩
    · rw [top]
      decide
    · rw [below, Storage.isAbsolute, String.toList_append]
      rfl
  · rw [splitSlashes_join sound, fileName_join sound, List.getLast?_concat, String.toList_ofList]
  · rw [fileName_join sound]
    simp only [IsPlain, String.toList_ofList, ne_eq, ← String.toList_inj]
    exact ⟨own.slash, own.filled, own.here, own.up⟩

end AssetPath

namespace Storage

/-- A path whose last part is a plain name leads to something of this name. -/
theorem placeOf_of_getLast? (working : Place) {path name : String} (plain : IsPlain name)
    (last : (Text.splitSlashes [] path.toList).getLast? = some name.toList) :
    ∃ place, placeOf working path = place ++ [name] := by
  obtain ⟨front, parts⟩ := List.getLast?_eq_some_iff.mp last
  refine ⟨(front.map String.ofList).foldl enter (startOf working path), ?_⟩
  rw [placeOf_eq, parts, List.map_append, List.foldl_append]
  simp [enter_of_isPlain _ plain]

theorem getLast?_splitSlashes_joinPath (base : String) {path : String}
    (relative : isAbsolute path = false) :
    (Text.splitSlashes [] (joinPath base path).toList).getLast? =
      (Text.splitSlashes [] path.toList).getLast? := by
  simp only [joinPath, relative, Bool.false_or]
  split
  · rfl
  · split
    next closed =>
      obtain ⟨before, spelled⟩ : ∃ before, base.toList = before ++ ['/'] := by
        apply List.getLast?_eq_some_iff.mp
        simpa using closed
      rw [String.toList_append, spelled, List.append_assoc, List.singleton_append,
        Text.getLast?_splitSlashes_append]
    · rw [String.toList_append, String.toList_append, List.append_assoc,
        show "/".toList = ['/'] from rfl, List.singleton_append,
        Text.getLast?_splitSlashes_append]

/-! ## Disks with the same images -/

/-- That two disks have the same folders, and the same files of those names that tell the form of an
image. -/
structure Disk.SameImages (disk other : Disk) : Prop where
  folders : ∀ place, disk.get? place = some .folder ↔ other.get? place = some .folder
  images : ∀ place name, Image.Format.ofName? name ≠ none →
    disk.get? (place ++ [name]) = other.get? (place ++ [name])

namespace Disk.SameImages

variable {first second third : Disk}

theorem refl (disk : Disk) : disk.SameImages disk := ⟨fun _ => Iff.rfl, fun _ _ _ => rfl⟩

theorem symm (same : first.SameImages second) : second.SameImages first :=
  ⟨fun place => (same.folders place).symm, fun place name form => (same.images place name form).symm⟩

theorem trans (earlier : first.SameImages second) (later : second.SameImages third) :
    first.SameImages third where
  folders place := (earlier.folders place).trans (later.folders place)
  images place name form := (earlier.images place name form).trans (later.images place name form)

theorem locate (same : first.SameImages second) {working place : Place} {path : String}
    (located : first.locate working path = .ok place) : second.locate working path = .ok place :=
  locate_mono (fun other folder => (same.folders other).mp folder) located

end Disk.SameImages

end Storage

namespace AssetFolders

open Storage.Disk (SameImages)

variable {disk other : Disk} {working place : Place} {path name : String}

/-- What is found at a path to the name of an image is the same on disks with the same images. -/
theorem probePath_of_sameImages (same : disk.SameImages other)
    (leads : placeOf working path = place ++ [name]) (form : Image.Format.ofName? name ≠ none) :
    probePath disk working path = probePath other working path := by
  simp only [probePath]
  cases located : disk.locate working path with
  | ok reached =>
      rw [same.locate located]
      dsimp only
      rw [Storage.locate_eq_ok located, leads, same.images place name form]
  | error fault =>
      cases again : other.locate working path with
      | error cause => rfl
      | ok reached =>
          rw [same.symm.locate again] at located
          cases located

/-- No size is given for a file whose name does not tell the form of an image. -/
theorem probePath_of_other_name (disk : Disk) (leads : placeOf working path = place ++ [name])
    (formless : Image.Format.ofName? name = none) (size : PixelSize) :
    probePath disk working path ≠ .ok (some size) := by
  simp only [probePath]
  cases located : disk.locate working path with
  | error fault => simp
  | ok reached =>
      dsimp only
      rw [Storage.locate_eq_ok located, leads]
      split
      · simp [Image.size, formless]
      · simp

/-- The paths to an asset lead to something of its file name. -/
theorem placeOf_path? (folders : AssetFolders) {raw canonicalPath : String}
    (spelled : AssetPath.canonical raw = .ok canonicalPath) (working : Place)
    {candidate : AssetCandidate}
    (own : candidate = .project canonicalPath ∨
      candidate = .secondary (AssetPath.fileName canonicalPath))
    (leads : folders.path? candidate = some path) :
    ∃ place, placeOf working path = place ++ [AssetPath.fileName canonicalPath] := by
  obtain ⟨relative, last, plain⟩ := AssetPath.canonical_plain spelled
  rcases own with rfl | rfl
  · cases leads
    apply Storage.placeOf_of_getLast? working plain
    rw [Storage.getLast?_splitSlashes_joinPath folders.project relative, last]
  · simp only [path?, Option.map_eq_some_iff] at leads
    obtain ⟨folder, -, rfl⟩ := leads
    exact ⟨_, Storage.placeOf_joinPath working folder plain⟩

/-- A store on a disk finds what it finds on a disk with the same images. -/
theorem findsAs_store (folders : AssetFolders) (same : disk.SameImages other) (working : Place) :
    (folders.store disk working).FindsAs (folders.store other working) := by
  intro raw path spelled
  by_cases form : Image.Format.ofName? (AssetPath.fileName path) = none
  · -- neither store gives a size for a file of this name
    have missed : ∀ (disk : Disk) (candidate : AssetCandidate),
        candidate = .project path ∨ candidate = .secondary (AssetPath.fileName path) →
          ∀ size, (folders.store disk working).probe candidate ≠ .ok (some size) := by
      intro disk candidate own size
      simp only [store]
      split
      · simp
      next located leads =>
        obtain ⟨place, leads⟩ := folders.placeOf_path? spelled working own leads
        exact probePath_of_other_name disk leads form size
    have nothing : ∀ disk : Disk,
        ((folders.store disk working).find raw path).1.toOption = none := by
      intro disk
      have primary := missed disk _ (.inl rfl)
      have secondary := missed disk _ (.inr rfl)
      simp only [AssetStore.find]
      split
      · rfl
      next size found => exact absurd found (primary size)
      · split
        · rfl
        next size found => exact absurd found (secondary size)
        · rfl
    rw [nothing disk, nothing other]
  · have equal : ∀ candidate : AssetCandidate,
        candidate = .project path ∨ candidate = .secondary (AssetPath.fileName path) →
          (folders.store disk working).probe candidate =
            (folders.store other working).probe candidate := by
      intro candidate own
      simp only [store]
      split
      · rfl
      next located leads =>
        obtain ⟨place, leads⟩ := folders.placeOf_path? spelled working own leads
        exact probePath_of_sameImages same leads form
    simp only [AssetStore.find, equal _ (.inl rfl), equal _ (.inr rfl)]
    rfl

end AssetFolders

/-! ## Names of other files -/

namespace Image

theorem ending?_append (front ending : List Char) (whole : '.' ∉ ending) :
    ending? (front ++ '.' :: ending) = if front = [] then none else some ending := by
  have apart : ∀ c ∈ ending.reverse, decide (c ≠ '.') = true := by
    intro c member
    rw [List.mem_reverse] at member
    have other : c ≠ '.' := by
      rintro rfl
      exact whole member
    simpa using other
  have turned : (front ++ '.' :: ending).reverse = ending.reverse ++ '.' :: front.reverse := by
    simp
  simp only [ending?, turned, List.dropWhile_append_of_pos apart,
    List.takeWhile_append_of_pos apart]
  cases front with
  | nil => simp
  | cons c cs => simp

/-- What a name tells depends on what stands behind its last point. -/
theorem ofName?_of_ending {name : String} {front ending : List Char}
    (spelled : name.toList = front ++ '.' :: ending) (whole : '.' ∉ ending)
    (formless : Format.ofName? (String.ofList ('a' :: '.' :: ending)) = none) :
    Format.ofName? name = none := by
  have known := ending?_append ['a'] ending whole
  simp only [Format.ofName?, String.toList_ofList] at formless ⊢
  rw [spelled, ending?_append front ending whole]
  rw [List.singleton_append, if_neg (List.cons_ne_nil _ _)] at known
  rw [known] at formless
  by_cases bare : front = []
  · rw [if_pos bare]
    rfl
  · rw [if_neg bare]
    exact formless

theorem ofName?_draftName (name : String) : Format.ofName? (Storage.draftName name) = none := by
  have spelled : (Storage.draftName name).toList =
      ("." ++ name).toList ++ '.' :: "partial".toList := by
    simp only [Storage.draftName, String.toList_append, List.append_assoc]
    rfl
  exact ofName?_of_ending spelled (by decide) (by decide)

theorem ofName?_sceneFile (scene : String) :
    Format.ofName? (SceneFile.fileName scene) = none := by
  have spelled : (SceneFile.fileName scene).toList =
      (SceneFile.safeName scene ++ ".scene").toList ++ '.' :: "json".toList := by
    simp only [SceneFile.fileName, String.toList_append, List.append_assoc]
    rfl
  exact ofName?_of_ending spelled (by decide) (by decide)

end Image

/-! ## Projects -/

namespace ProjectFolder

open Storage (Disk HasFolders Keeps Place SameFolders)

variable {project : ProjectFolder} {storage after : Storage}

/-- That between two moments the disk kept its folders and its images. -/
structure KeepsImages (before after : Storage) : Prop where
  working : after.working = before.working
  images : before.disk.SameImages after.disk

namespace KeepsImages

variable {first second third : Storage}

theorem refl (storage : Storage) : KeepsImages storage storage := ⟨rfl, .refl _⟩

theorem trans (earlier : KeepsImages first second) (later : KeepsImages second third) :
    KeepsImages first third :=
  ⟨later.working.trans earlier.working, earlier.images.trans later.images⟩

theorem keepsFolders (kept : KeepsImages first second) : Storage.KeepsFolders first second :=
  ⟨kept.working, fun place folder => (kept.images.folders place).mp folder⟩

/-- Steps that write no file of an image keep the images. -/
theorem of_keeps {places : List Place} (kept : Keeps places first second)
    (same : SameFolders first second)
    (formless : ∀ place name, place ++ [name] ∈ places → Image.Format.ofName? name = none) :
    KeepsImages first second := by
  refine ⟨kept.working, fun place => (same place).symm, ?_⟩
  intro place name form
  have file := kept.files (place ++ [name]) fun member => form (formless place name member)
  have folder := same (place ++ [name])
  simp only [Storage.fileAt?, Disk.fileAt?] at file
  generalize first.disk.get? (place ++ [name]) = before at file folder ⊢
  generalize second.disk.get? (place ++ [name]) = later at file folder ⊢
  rcases before with _ | _ | bytes <;> rcases later with _ | _ | others <;> simp_all

end KeepsImages

theorem keepsImages_load {α : Type} (storage : Storage) (path : String)
    (reader : Json.TypedReader α) (missing : α) :
    KeepsImages storage (load storage path reader missing).2 :=
  .of_keeps (keeps_load storage path reader missing)
    (sameFolders_load storage path reader missing) (by simp)

theorem keepsImages_save {folder name : String} (folders : HasFolders storage folder)
    (formless : Image.Format.ofName? name = none) (value : Json) :
    KeepsImages storage (save storage folder name value).2 := by
  apply KeepsImages.of_keeps (keeps_save storage folder name value)
    (sameFolders_save folders name value)
  intro place other member
  simp only [Storage.fileIn, List.mem_cons, List.not_mem_nil, or_false] at member
  rcases member with same | same
  · rw [List.singleton_inj.mp (List.append_inj' same rfl).2]
    exact Image.ofName?_draftName name
  · rw [List.singleton_inj.mp (List.append_inj' same rfl).2]
    exact formless

theorem keepsImages_saveTables (prepared : project.Prepared storage) (tables : Tables) :
    KeepsImages storage (project.saveTables tables storage).2 :=
  keepsImages_save prepared.settings (by decide) tables.toJson

theorem keepsImages_registerBuildScene (prepared : project.Prepared storage) (path : String) :
    KeepsImages storage (project.registerBuildScene path storage).2 := by
  have kept : KeepsImages storage (project.loadBuildList storage).2 := keepsImages_load ..
  unfold registerBuildScene
  generalize project.loadBuildList storage = result at kept ⊢
  obtain ⟨outcome, opened⟩ := result
  cases outcome with
  | error fault => exact kept
  | ok list =>
      dsimp only at kept ⊢
      split
      · exact kept
      · have saved := keepsImages_save (prepared.mono kept.keepsFolders).settings
          (show Image.Format.ofName? buildListName = none by decide) (list.add path).toJson
        split
        next stored =>
          rw [stored] at saved
          exact kept.trans saved
        next stored =>
          rw [stored] at saved
          exact kept.trans saved

/-- Saving a scene leaves the images as they are. -/
theorem keepsImages_saveScene (prepared : project.Prepared storage) (artifact : Scene.Artifact) :
    KeepsImages storage (project.saveScene artifact storage).2 := by
  have own : KeepsImages storage (project.saveOwnFile artifact storage).2 :=
    keepsImages_save prepared.scenes (Image.ofName?_sceneFile artifact.name) artifact.toJson
  cases stored : project.saveOwnFile artifact storage with
  | mk outcome opened =>
      rw [stored] at own
      cases outcome with
      | error fault =>
          rw [saveScene_of_own_error stored]
          exact own
      | ok done =>
          rw [(saveScene_of_own_ok stored).1]
          exact own.trans (keepsImages_registerBuildScene (prepared.mono own.keepsFolders) _)

end ProjectFolder

end GameScenes
