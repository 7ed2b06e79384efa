import GameScenes.Project.Saving
import GameScenes.Proofs.Storage.Saving
import GameScenes.Proofs.Text.Slashes

/-!
# Where a project keeps its files

The scenes of a project and its settings lie in different folders, whatever the root is and however
it is spelled, and the file of a scene never has the name of a draft.  Saving one of them therefore
never disturbs another.
-/

set_option autoImplicit false

namespace GameScenes

namespace Storage

/-- Whether a text is one part of a path that leads one folder down. -/
def IsPlain (name : String) : Prop := '/' ∉ name.toList ∧ name ≠ "" ∧ name ≠ "." ∧ name ≠ ".."

instance (name : String) : Decidable (IsPlain name) :=
  inferInstanceAs (Decidable (_ ∧ _ ∧ _ ∧ _))

theorem enter_blank (place : Place) : enter place "" = place := by simp [enter]

theorem enter_of_isPlain (place : Place) {name : String} (plain : IsPlain name) :
    enter place name = place ++ [name] := by
  obtain ⟨-, filled, here, up⟩ := plain
  simp [enter, filled, here, up]

theorem isAbsolute_of_isPlain {name : String} (plain : IsPlain name) : isAbsolute name = false := by
  obtain ⟨whole, -, -, -⟩ := plain
  unfold isAbsolute
  cases chars : name.toList with
  | nil => rfl
  | cons c cs =>
      rw [chars] at whole
      have apart : c ≠ '/' := fun same => whole (by simp [same])
      simpa using apart

theorem placeOf_eq (working : Place) (path : String) :
    placeOf working path =
      ((Text.splitSlashes [] path.toList).map String.ofList).foldl enter
        (startOf working path) := rfl

/-- A path that goes on starts where it started. -/
theorem startOf_append (working : Place) {base : String} (rest : String) (filled : base ≠ "") :
    startOf working (base ++ rest) = startOf working base := by
  have same : isAbsolute (base ++ rest) = isAbsolute base := by
    unfold isAbsolute
    cases chars : base.toList with
    | nil => exact absurd (String.toList_eq_nil_iff.mp chars) filled
    | cons c cs => simp [chars]
  unfold startOf
  rw [same]

/-- A path that ends in a plain name leads into what stands before it. -/
theorem placeOf_joinPath (working : Place) (base : String) {name : String} (plain : IsPlain name) :
    placeOf working (joinPath base name) = placeOf working base ++ [name] := by
  have relative := isAbsolute_of_isPlain plain
  have last : Text.splitSlashes [] name.toList = [name.toList] :=
    Text.splitSlashes_of_not_mem [] name.toList plain.1
  unfold joinPath
  rw [relative, Bool.false_or]
  split
  next bare =>
    -- nothing stands before the name
    have empty : base = "" := by simpa using bare
    subst empty
    have start : startOf working name = working := by simp [startOf, relative]
    rw [placeOf_eq, placeOf_eq, last, start]
    simp [startOf, isAbsolute, Text.splitSlashes, enter_of_isPlain working plain, enter_blank]
  next filled =>
    have nonempty : base ≠ "" := by simpa using filled
    split
    next closed =>
      -- the slash that ends the base stands before an empty part, which leads nowhere
      obtain ⟨before, spelled⟩ : ∃ before, base.toList = before ++ ['/'] := by
        apply List.getLast?_eq_some_iff.mp
        simpa using closed
      rw [placeOf_eq, startOf_append working name nonempty, placeOf_eq, String.toList_append,
        spelled, List.append_assoc, List.singleton_append, Text.splitSlashes_append,
        Text.splitSlashes_append, last]
      simp [Text.splitSlashes, enter_of_isPlain _ plain, enter_blank]
    next opened =>
      rw [placeOf_eq, String.append_assoc, startOf_append working _ nonempty, placeOf_eq,
        String.toList_append, String.toList_append, show "/".toList = ['/'] from rfl,
        List.singleton_append, Text.splitSlashes_append, last]
      simp [enter_of_isPlain _ plain]

/-- A path that does not end in a slash goes on after one. -/
theorem joinPath_of_opened {base name : String} (plain : IsPlain name) (filled : base ≠ "")
    (opened : base.toList.getLast? ≠ some '/') :
    joinPath base name = base ++ "/" ++ name ∧
      Text.pathParts (joinPath base name) = Text.pathParts base ++ [name] := by
  have joined : joinPath base name = base ++ "/" ++ name := by
    unfold joinPath
    rw [isAbsolute_of_isPlain plain, if_neg (by simpa using filled), if_neg (by simpa using opened)]
  have last : Text.splitSlashes [] name.toList = [name.toList] :=
    Text.splitSlashes_of_not_mem [] name.toList plain.1
  refine ⟨joined, ?_⟩
  rw [joined, Text.pathParts, String.append_assoc, String.toList_append, String.toList_append,
    show "/".toList = ['/'] from rfl, List.singleton_append, Text.splitSlashes_append, last]
  simp [Text.pathParts]

/-- A path that ends in a plain name does not end in a slash. -/
theorem getLast?_joinPath (base : String) {name : String} (plain : IsPlain name) :
    (joinPath base name).toList.getLast? = name.toList.getLast? ∧ joinPath base name ≠ "" := by
  obtain ⟨c, last⟩ : ∃ c, name.toList.getLast? = some c := by
    cases ended : name.toList.getLast? with
    | none =>
        have empty := List.getLast?_eq_none_iff.mp ended
        exact absurd (String.toList_eq_nil_iff.mp empty) plain.2.1
    | some c => exact ⟨c, rfl⟩
  have ends : (joinPath base name).toList.getLast? = some c := by
    unfold joinPath
    split
    · exact last
    · split
      · simp [String.toList_append, List.getLast?_append, last]
      · simp [String.toList_append, List.getLast?_append, List.getLast?_cons, last]
  refine ⟨ends.trans last.symm, ?_⟩
  intro empty
  simp [empty] at ends

end Storage

namespace ProjectFolder

open Storage (Place placeOf fileIn draftName)

variable (project : ProjectFolder) (working : Place)

/-- The place of the scene file that has a name without its ending. -/
def scenePlace (stem : String) : Place :=
  fileIn working project.scenesFolder (stem ++ ".scene.json")

def sceneDraftPlace (stem : String) : Place :=
  fileIn working project.scenesFolder (draftName (stem ++ ".scene.json"))

def settingsPlace (name : String) : Place := fileIn working project.settingsFolder name

theorem scenePlace_eq (stem : String) :
    project.scenePlace working stem =
      placeOf working project.root ++ ["Assets", "Scenes", stem ++ ".scene.json"] := by
  unfold scenePlace fileIn scenesFolder
  rw [Storage.placeOf_joinPath _ _ (by decide), Storage.placeOf_joinPath _ _ (by decide)]
  simp

theorem sceneDraftPlace_eq (stem : String) :
    project.sceneDraftPlace working stem =
      placeOf working project.root ++ ["Assets", "Scenes", draftName (stem ++ ".scene.json")] := by
  unfold sceneDraftPlace fileIn scenesFolder
  rw [Storage.placeOf_joinPath _ _ (by decide), Storage.placeOf_joinPath _ _ (by decide)]
  simp

theorem settingsPlace_eq (name : String) :
    project.settingsPlace working name =
      placeOf working project.root ++ ["ProjectSettings", name] := by
  unfold settingsPlace fileIn settingsFolder
  rw [Storage.placeOf_joinPath _ _ (by decide)]
  simp

theorem scenePlace_inj (stem other : String) :
    project.scenePlace working stem = project.scenePlace working other ↔ stem = other := by
  rw [scenePlace_eq, scenePlace_eq]
  simp

theorem scenePlace_ne_settingsPlace (stem name : String) :
    project.scenePlace working stem ≠ project.settingsPlace working name := by
  rw [scenePlace_eq, settingsPlace_eq]
  simp

theorem sceneDraftPlace_ne_settingsPlace (stem name : String) :
    project.sceneDraftPlace working stem ≠ project.settingsPlace working name := by
  rw [sceneDraftPlace_eq, settingsPlace_eq]
  simp

theorem settingsPlace_inj (name other : String) :
    project.settingsPlace working name = project.settingsPlace working other ↔ name = other := by
  rw [settingsPlace_eq, settingsPlace_eq]
  simp

/-- The name of a scene file and the name of a draft end differently. -/
theorem ne_draftName (stem other : String) : stem ++ ".scene.json" ≠ draftName other := by
  intro same
  have ends := congrArg (fun s => s.toList.getLast?) same
  simp only [draftName, String.toList_append, List.getLast?_append] at ends
  simp at ends

theorem scenePlace_ne_sceneDraftPlace (stem other : String) :
    project.scenePlace working stem ≠ project.sceneDraftPlace working other := by
  rw [scenePlace_eq, sceneDraftPlace_eq]
  simpa using ne_draftName stem (other ++ ".scene.json")

end ProjectFolder

end GameScenes
