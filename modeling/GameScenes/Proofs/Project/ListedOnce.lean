import GameScenes.Proofs.Project.ReadBack

/-!
# Scenes that are listed once

However many paths are registered one after the other, each time by way of the file, the list of
scenes to build keeps its entries where they are and gets each new path once (`register_once`).
-/

set_option autoImplicit false

namespace GameScenes

/-! ## Lists that grow -/

namespace BuildList

variable {list result : BuildList} {path other : String} {calls : List (String × Bool)}

theorem lists_add_eq (list : BuildList) (path other : String) :
    (list.add path).lists other = (list.lists other || path == other) := by
  simp [lists, add]

theorem lists_of_scenes {more : List BuildEntry} (longer : result.scenes = list.scenes ++ more)
    (listed : list.lists other = true) : result.lists other = true := by
  rw [lists, longer, List.any_append, Bool.or_eq_true]
  exact .inl listed

/-- The paths of the calls that were answered by adding them. -/
def addedBy (calls : List (String × Bool)) : List String := (calls.filter (·.2)).map (·.1)

/-- What calls, each a path with its answer, have made of a list. -/
structure Registered (list : BuildList) (calls : List (String × Bool)) (result : BuildList) :
    Prop where
  /-- The entries are where they were, and the paths that were added come after them. -/
  scenes : result.scenes = list.scenes ++ (addedBy calls).map (⟨·, true⟩)
  once : (addedBy calls).Nodup
  absent : ∀ path ∈ addedBy calls, list.lists path = false
  listed : ∀ call ∈ calls, result.lists call.1 = true

namespace Registered

theorem nil (list : BuildList) : list.Registered [] list where
  scenes := (List.append_nil _).symm
  once := .nil
  absent _ member := absurd member List.not_mem_nil
  listed _ member := absurd member List.not_mem_nil

theorem found (there : list.lists path = true) (later : list.Registered calls result) :
    list.Registered ((path, false) :: calls) result where
  scenes := later.scenes
  once := later.once
  absent := later.absent
  listed call member := by
    rcases List.mem_cons.mp member with rfl | further
    · exact lists_of_scenes later.scenes there
    · exact later.listed call further

theorem add (new : list.lists path = false) (later : (list.add path).Registered calls result) :
    list.Registered ((path, true) :: calls) result := by
  -- the path is on the longer list, so no later call adds it again
  have apart : ∀ other ∈ addedBy calls, list.lists other = false ∧ path ≠ other := by
    intro other member
    have absent := later.absent other member
    rw [lists_add_eq, Bool.or_eq_false_iff] at absent
    exact ⟨absent.1, beq_eq_false_iff_ne.mp absent.2⟩
  have grown : result.scenes = list.scenes ++ (addedBy ((path, true) :: calls)).map (⟨·, true⟩) := by
    rw [later.scenes]
    exact List.append_assoc ..
  refine ⟨grown, ?_, ?_, ?_⟩
  · exact List.nodup_cons.mpr ⟨fun again => (apart path again).2 rfl, later.once⟩
  · intro other member
    rcases List.mem_cons.mp member with rfl | further
    · exact new
    · exact (apart other further).1
  · intro call member
    rcases List.mem_cons.mp member with rfl | further
    · exact lists_of_scenes later.scenes (ProjectFolder.lists_add list path)
    · exact later.listed call further

end Registered

end BuildList

namespace ProjectFolder

open Storage (SavableAt)

variable {project : ProjectFolder} {storage next after : Storage} {list : BuildList}
  {path : String} {added : Bool} {calls earlier later : List (String × Bool)}

/-! ## One call -/

/-- That there is a list of scenes to build, as a host finds it that lets its file be read. -/
def HoldsBuildList (project : ProjectFolder) (storage : Storage) (list : BuildList) : Prop :=
  (project.loadBuildList (Storage.start storage.disk storage.working fun _ => none)).1 = .ok list

theorem HoldsBuildList.load (held : project.HoldsBuildList storage list)
    (allowed : storage.Allows) : (project.loadBuildList storage).1 = .ok list :=
  load_again held allowed rfl rfl

theorem holdsBuildList_of_load (loaded : (project.loadBuildList storage).1 = .ok list) :
    project.HoldsBuildList storage list :=
  load_again loaded rfl rfl rfl

theorem HoldsBuildList.unique {other : BuildList} (held : project.HoldsBuildList storage list)
    (again : project.HoldsBuildList storage other) : other = list := by
  have same := again.symm.trans held
  rwa [Except.ok.injEq] at same

/-- A call adds its path to the list that is there unless it is listed, and says which. -/
theorem HoldsBuildList.register (held : project.HoldsBuildList storage list)
    (sound : storage.Sound)
    (success : project.registerBuildScene path storage = (.ok added, next)) :
    added = !list.lists path ∧
      project.HoldsBuildList next (if added then list.add path else list) := by
  obtain ⟨loaded, found, answer, left⟩ := loadBuildList_of_left sound success
  obtain rfl := held.unique (holdsBuildList_of_load found)
  refine ⟨answer, ?_⟩
  have longer := left (Storage.start next.disk next.working fun _ => none) rfl rfl rfl
  cases there : loaded.lists path with
  | true => simpa [HoldsBuildList, answer, there] using longer
  | false => simpa [HoldsBuildList, answer, there] using longer

/-! ## Calls one after the other -/

/-- That calls, each a path with its answer, succeed one after the other. -/
inductive Registers (project : ProjectFolder) :
    Storage → List (String × Bool) → Storage → Prop where
  | nil (storage : Storage) : project.Registers storage [] storage
  | cons {storage next after : Storage} {path : String} {added : Bool}
      {calls : List (String × Bool)}
      (first : project.registerBuildScene path storage = (.ok added, next))
      (rest : project.Registers next calls after) :
      project.Registers storage ((path, added) :: calls) after

namespace Registers

theorem split (run : project.Registers storage (earlier ++ later) after) :
    ∃ between, project.Registers storage earlier between ∧
      project.Registers between later after := by
  induction earlier generalizing storage with
  | nil => exact ⟨storage, .nil storage, run⟩
  | cons call rest ih =>
      cases run with
      | cons first run =>
          obtain ⟨between, before, behind⟩ := ih run
          exact ⟨between, .cons first before, behind⟩

theorem sound (run : project.Registers storage calls after) (sound : storage.Sound) :
    after.Sound := by
  induction run with
  | nil storage => exact sound
  | cons first rest ih => exact ih (sound_of_registerBuildScene sound first)

/-- Every call starts from the list that the one before it left. -/
theorem registered (run : project.Registers storage calls after) (sound : storage.Sound)
    (held : project.HoldsBuildList storage list) :
    ∃ result, project.HoldsBuildList after result ∧ list.Registered calls result := by
  induction run generalizing list with
  | nil storage => exact ⟨list, held, .nil list⟩
  | @cons storage next after path added calls first rest ih =>
      obtain ⟨answer, left⟩ := held.register sound first
      obtain ⟨result, last, registered⟩ := ih (sound_of_registerBuildScene sound first) left
      refine ⟨result, last, ?_⟩
      cases there : list.lists path with
      | true =>
          obtain rfl : added = false := by simp [answer, there]
          exact .found there registered
      | false =>
          obtain rfl : added = true := by simp [answer, there]
          exact .add there registered

/-- On a host that refuses nothing the calls succeed where the file can be saved. -/
theorem of_savableAt (willing : storage.Willing) (sound : storage.Sound)
    (savable : SavableAt storage project.settingsFolder buildListName)
    (held : project.HoldsBuildList storage list) (paths : List String) :
    ∃ calls after, calls.map (·.1) = paths ∧ project.Registers storage calls after := by
  induction paths generalizing storage list with
  | nil => exact ⟨[], storage, rfl, .nil storage⟩
  | cons path rest ih =>
      obtain ⟨next, first⟩ : ∃ next,
          project.registerBuildScene path storage = (.ok (!list.lists path), next) :=
        registerBuildScene_of_savableAt willing savable (held.load willing.allows)
      have kept := keeps_registerBuildScene project path storage
      have same := sameFolders_registerBuildScene savable.folders path
      have still := sound_of_registerBuildScene sound first
      rw [first] at kept same
      obtain ⟨answer, left⟩ := held.register sound first
      obtain ⟨calls, after, answered, run⟩ :=
        ih (kept.willing willing) still (savable.mono kept.keepsFolders same) left
      exact ⟨_ :: calls, after, by rw [List.map_cons, answered], .cons first run⟩

end Registers

/-- Whatever is listed to begin with, calls that succeed leave its entries where they are with their
marks, add each path at most once and only if it was absent, and leave every path listed that was
asked for; the answer to a call tells whether this call added its path.  Any calls do succeed on a
host that refuses nothing, where the file of the list can be saved. -/
theorem register_once (sound : storage.Sound) (held : project.HoldsBuildList storage list) :
    (∀ calls after, project.Registers storage calls after →
        (∃ result, project.HoldsBuildList after result ∧ list.Registered calls result) ∧
          ∀ earlier path added later, calls = earlier ++ (path, added) :: later →
            ∃ before next now, project.Registers storage earlier before ∧
              project.registerBuildScene path before = (.ok added, next) ∧
              project.Registers next later after ∧
              project.HoldsBuildList before now ∧ list.Registered earlier now ∧
              added = !now.lists path ∧
              project.HoldsBuildList next (if added then now.add path else now)) ∧
      (storage.Willing → SavableAt storage project.settingsFolder buildListName → ∀ paths,
        ∃ calls after, calls.map (·.1) = paths ∧ project.Registers storage calls after) := by
  refine ⟨?_, fun willing savable paths =>
    Registers.of_savableAt willing sound savable held paths⟩
  intro calls after run
  refine ⟨run.registered sound held, ?_⟩
  rintro earlier path added later rfl
  obtain ⟨before, first, run⟩ := run.split
  obtain ⟨now, here, registered⟩ := first.registered sound held
  cases run with
  | cons success rest =>
      obtain ⟨answer, left⟩ := here.register (first.sound sound) success
      exact ⟨before, _, now, first, success, rest, here, registered, answer, left⟩

/-- A list with an entry that is not enabled and a path that is there twice. -/
def repeatedList : BuildList := ⟨[⟨"A", false⟩, ⟨"B", true⟩, ⟨"A", true⟩]⟩

def repeatedListStorage : Storage :=
  Storage.start
    ⟨[(["proj"], .folder), (["proj", "ProjectSettings"], .folder),
      (["proj", "ProjectSettings", "EditorBuildSettings.json"],
        .file (fileText repeatedList.toJson).toUTF8)]⟩
    [] fun _ => none

theorem sound_repeatedListStorage : repeatedListStorage.Sound where
  here := rfl
  short place name folder := by
    have short : ∀ entry ∈ repeatedListStorage.disk.entries, ∀ name ∈ entry.1,
        name.utf8ByteSize ≤ Storage.maxNameBytes := by decide
    rw [Storage.Disk.get?, if_neg (by simp)] at folder
    obtain ⟨before, behind, split, -⟩ := List.lookup_eq_some_iff.mp folder
    exact short (place ++ [name], .folder) (by simp [split]) name (by simp)

theorem savableAt_repeatedListStorage :
    SavableAt repeatedListStorage (ProjectFolder.mk "proj").settingsFolder buildListName where
  folders := by
    have parts : Text.pathParts (ProjectFolder.mk "proj").settingsFolder =
        ["proj", "ProjectSettings"] := by decide +kernel
    refine ⟨rfl, ?_⟩
    rw [parts]
    exact ⟨rfl, rfl, rfl⟩
  checked := rfl
  savable := by
    have place : Storage.placeOf [] (ProjectFolder.mk "proj").settingsFolder =
        ["proj", "ProjectSettings"] := by decide +kernel
    change Storage.Savable _ (Storage.placeOf [] _) _
    rw [place]
    exact ⟨rfl, by decide, nofun, nofun⟩

/-- The path that is there is not added again, and the new one is. -/
theorem register_once_repeated :
    repeatedListStorage.Sound ∧
      (ProjectFolder.mk "proj").HoldsBuildList repeatedListStorage repeatedList ∧
      ∃ after, (ProjectFolder.mk "proj").Registers repeatedListStorage
          [("A", false), ("C", true)] after ∧
        (ProjectFolder.mk "proj").HoldsBuildList after
          ⟨[⟨"A", false⟩, ⟨"B", true⟩, ⟨"A", true⟩, ⟨"C", true⟩]⟩ := by
  have sound := sound_repeatedListStorage
  have savable := savableAt_repeatedListStorage
  have held : (ProjectFolder.mk "proj").HoldsBuildList repeatedListStorage repeatedList :=
    load_of_fileAt? BuildList.empty (fun _ => rfl) (by decide)
      (located_of_checked sound savable.folders (by decide) (by decide) rfl) rfl
      (BuildList.reader_fileText repeatedList)
  obtain ⟨calls, after, asked, run⟩ :=
    (register_once sound held).2 (fun _ => rfl) savable ["A", "C"]
  obtain ⟨⟨result, last, registered⟩, -⟩ := (register_once sound held).1 calls after run
  obtain ⟨⟨-, a⟩, rest, rfl, rfl, further⟩ := List.map_eq_cons_iff.mp asked
  obtain ⟨⟨-, c⟩, rest, rfl, rfl, none⟩ := List.map_eq_cons_iff.mp further
  obtain rfl := List.map_eq_nil_iff.mp none
  have notAdded : a = false := by
    cases a with
    | false => rfl
    | true => exact absurd (registered.absent "A" List.mem_cons_self) (by decide)
  subst notAdded
  have wasAdded : c = true := by
    cases c with
    | true => rfl
    | false =>
        have listed := registered.listed ("C", false) (by simp)
        rw [BuildList.lists, registered.scenes] at listed
        exact absurd listed (by decide)
  subst wasAdded
  obtain rfl : result = ⟨[⟨"A", false⟩, ⟨"B", true⟩, ⟨"A", true⟩, ⟨"C", true⟩]⟩ :=
    congrArg BuildList.mk registered.scenes
  exact ⟨sound, held, after, run, last⟩

end ProjectFolder

end GameScenes
