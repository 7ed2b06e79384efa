import GameScenes.Proofs.Project.Places
import GameScenes.Proofs.Text.Trimming

/-!
# Safe names of scene files

What a scene's name becomes in the name of its file is safe (`isSafeName_safeName`), and a safe
name stays as it is (`safeName_of_isSafeName`).  The file lies directly in the folder of the scenes
and is no draft of a scene (`liesDirectly`).
-/

set_option autoImplicit false

namespace GameScenes.SceneFile

open Storage (IsPlain Place draftName joinPath placeOf)
open Text (isBlank trimChars)

/-! ## Characters -/

/-- That a character may stand in the name of a scene file. -/
def IsSafe (c : Char) : Prop := c.isAlphanum = true ∨ c = ' ' ∨ c = '_' ∨ c = '-'

instance (c : Char) : Decidable (IsSafe c) := inferInstanceAs (Decidable (_ ∨ _ ∨ _ ∨ _))

theorem isAlphanum_iff (c : Char) :
    c.isAlphanum = true ↔ ((65 ≤ c.toNat ∧ c.toNat ≤ 90) ∨ (97 ≤ c.toNat ∧ c.toNat ≤ 122)) ∨
      (48 ≤ c.toNat ∧ c.toNat ≤ 57) := by
  have spelled : c.isAlphanum =
      (decide (65 ≤ c.val ∧ c.val ≤ 90) || (decide (97 ≤ c.val) && decide (c.val ≤ 122)) ||
        (decide (48 ≤ c.val) && decide (c.val ≤ 57))) := rfl
  rw [spelled]
  simp only [Bool.or_eq_true, Bool.and_eq_true, decide_eq_true_eq]
  rfl

theorem isLetterOrDigit_eq (c : Char) : isLetterOrDigit c = c.isAlphanum := by
  rw [Bool.eq_iff_iff, isAlphanum_iff]
  simp only [isLetterOrDigit, Bool.or_eq_true, Bool.and_eq_true, decide_eq_true_eq]
  rw [@or_comm (65 ≤ c.toNat ∧ c.toNat ≤ 90)]
  rfl

theorem isSafe_safeChar (c : Char) : IsSafe (safeChar c) := by
  unfold safeChar
  split
  next kept => simpa [IsSafe, isLetterOrDigit_eq, or_assoc] using kept
  · exact .inr (.inr (.inl rfl))

theorem safeChar_of_isSafe {c : Char} (safe : IsSafe c) : safeChar c = c := by
  unfold safeChar
  rw [if_pos]
  simpa [IsSafe, isLetterOrDigit_eq, or_assoc] using safe

/-- The only blank that may stand in a name is the space. -/
theorem isBlank_of_isSafe {c : Char} (safe : IsSafe c) (filled : c ≠ ' ') : isBlank c = false := by
  rcases safe with alphanum | rfl | rfl | rfl
  · have between : 48 ≤ c.toNat ∧ c.toNat ≤ 122 := by
      have ranges := (isAlphanum_iff c).mp alphanum
      omega
    simp only [isBlank]
    grind
  · exact absurd rfl filled
  · decide
  · decide

/-! ## Names -/

/-- A name that can stand for a scene in the name of a file. -/
structure IsSafeName (name : String) : Prop where
  filled : name ≠ ""
  safe : ∀ c ∈ name.toList, IsSafe c
  first : name.toList.head? ≠ some ' '
  last : name.toList.getLast? ≠ some ' '
  varied : ∃ c ∈ name.toList, c ≠ '_'

/-- The name that stands for names of which nothing is left is safe. -/
theorem isSafeName_scene : IsSafeName "Scene" where
  filled := by decide
  safe := by
    have all : "Scene".toList.all (fun c => decide (IsSafe c)) = true := by decide
    simpa using all
  first := by decide
  last := by decide
  varied := ⟨'S', by decide, by decide⟩

/-- Trimming once more takes away the blanks that came to the ends. -/
theorem isSafeName_safeName (name : String) : IsSafeName (safeName name) := by
  unfold safeName
  extract_lets cs
  split
  · exact isSafeName_scene
  next mixed =>
    obtain ⟨first, last⟩ := (Text.trimChars_eq_self_iff cs).mp (Text.trimChars_trimChars _)
    obtain ⟨c, inside, other⟩ : ∃ c ∈ cs, c ≠ '_' := by simpa using mixed
    refine ⟨?_, ?_, ?_, ?_, c, ?_, other⟩
    · intro empty
      rw [String.ofList_eq_empty_iff.mp empty] at inside
      cases inside
    all_goals rw [String.toList_ofList]
    · intro d member
      obtain ⟨e, -, rfl⟩ := List.mem_map.mp ((Text.trimChars_sublist _).subset member)
      exact isSafe_safeChar e
    · intro space
      cases first ' ' space
    · intro space
      cases last ' ' space
    · exact inside

theorem safeName_of_isSafeName {name : String} (safe : IsSafeName name) : safeName name = name := by
  have trimmed : trimChars name.toList = name.toList := by
    rw [Text.trimChars_eq_self_iff]
    constructor
    · intro c first
      apply isBlank_of_isSafe (safe.safe c (List.mem_of_head? first))
      rintro rfl
      exact safe.first first
    · intro c last
      apply isBlank_of_isSafe (safe.safe c (List.mem_of_getLast? last))
      rintro rfl
      exact safe.last last
  have kept : name.toList.map safeChar = name.toList :=
    (List.map_congr_left fun c member => safeChar_of_isSafe (safe.safe c member)).trans
      (List.map_id _)
  have mixed : ¬ name.toList.all (· = '_') = true := by
    obtain ⟨c, inside, other⟩ := safe.varied
    simpa using ⟨c, inside, other⟩
  unfold safeName
  rw [trimmed, kept, trimmed]
  dsimp only
  rw [if_neg mixed, String.ofList_toList]

/-! ## Files -/

theorem relativePath_inj {name other : String} :
    relativePath name = relativePath other ↔ safeName name = safeName other := by
  unfold relativePath fileName
  rw [String.append_right_inj, String.append_left_inj]

theorem isPlain_fileName (name : String) : IsPlain (fileName name) := by
  have ends : (fileName name).toList.getLast? = some 'n' := by
    simp [fileName, String.toList_append, List.getLast?_append]
  refine ⟨?_, ?_, ?_, ?_⟩
  · intro slash
    rw [fileName, String.toList_append] at slash
    rcases List.mem_append.mp slash with own | ending
    · exact absurd ((isSafeName_safeName name).safe '/' own) (by decide)
    · exact absurd ending (by decide)
  all_goals
    intro same
    rw [same] at ends
    simp at ends

/-- That the file of a scene lies directly in the folder of the scenes, and is the draft of no
scene. -/
structure LiesDirectly (project : ProjectFolder) (working : Place) (name : String) : Prop where
  plain : IsPlain (fileName name)
  inside : placeOf working (joinPath project.scenesFolder (fileName name)) =
    placeOf working project.scenesFolder ++ [fileName name]
  relative : Text.pathParts (relativePath name) = ["Assets", "Scenes", fileName name]
  finished : ∀ other, fileName name ≠ draftName (fileName other)

theorem liesDirectly (project : ProjectFolder) (working : Place) (name : String) :
    LiesDirectly project working name where
  plain := isPlain_fileName name
  inside := Storage.placeOf_joinPath working project.scenesFolder (isPlain_fileName name)
  relative := by
    have folders : "Assets/Scenes/".toList = "Assets".toList ++ '/' :: ("Scenes".toList ++ ['/']) :=
      rfl
    unfold Text.pathParts relativePath
    rw [String.toList_append, folders, List.append_assoc, List.cons_append, List.append_assoc,
      List.singleton_append, Text.splitSlashes_append, Text.splitSlashes_append,
      Text.splitSlashes_of_not_mem [] _ (isPlain_fileName name).1]
    simp [Text.splitSlashes]
  finished := fun other => ProjectFolder.ne_draftName (safeName name) (fileName other)

end GameScenes.SceneFile
