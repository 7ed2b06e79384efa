import GameScenes.Proofs.Asset.Imports
import GameScenes.Proofs.Text.Slashes
import GameScenes.Proofs.Text.Trimming

/-!
# Spellings of paths

Whatever a document spells, an accepted path stands at or below the folder of all assets, and each
of its segments leads one folder down (`canonical_stays_inside`).  The blanks around a spelling are
dropped once, before its segments are looked at: a canonical path whose last segment ends in a
blank is therefore not its own canonical path (`canonical_again_iff`).
-/

set_option autoImplicit false

namespace GameScenes.AssetPath

variable {raw path : String} {parts front : List (List Char)} {last : List Char}

/-! ## Segments -/

/-- A segment that leads one folder down, whichever separator is in use. -/
structure IsName (part : List Char) : Prop where
  slash : '/' ∉ part
  backslash : '\\' ∉ part
  filled : part ≠ []
  here : part ≠ ['.']
  up : part ≠ ['.', '.']

theorem isName_root : IsName root := by
  constructor <;> decide

theorem isSegment_iff {part : List Char} : isSegment part = true ↔ part ≠ [] ∧ part ≠ ['.'] := by
  simp [isSegment]

theorem backslash_not_mem_unified (cs : List Char) : '\\' ∉ cs.map unifySeparator := by
  rw [List.mem_map]
  rintro ⟨c, -, unified⟩
  unfold unifySeparator at unified
  split at unified
  · cases unified
  next other => exact other unified

theorem map_unifySeparator_of_not_mem {cs : List Char} (whole : '\\' ∉ cs) :
    cs.map unifySeparator = cs := by
  refine (List.map_congr_left ?_).trans (List.map_id cs)
  intro c member
  have other : c ≠ '\\' := fun same => whole (same ▸ member)
  rw [unifySeparator, if_neg other]
  rfl

theorem isName_of_mem_segments {part : List Char} (member : part ∈ segments raw)
    (up : part ≠ ['.', '.']) : IsName part := by
  obtain ⟨piece, names⟩ := List.mem_filter.mp member
  obtain ⟨filled, here⟩ := isSegment_iff.mp names
  refine ⟨Text.not_mem_of_mem_splitSlashes [] _ (by simp) piece, ?_, filled, here, up⟩
  intro inside
  rcases Text.mem_of_mem_splitSlashes [] _ piece inside with none | unified
  · cases none
  · exact backslash_not_mem_unified _ unified

/-- That the segments of a spelling name an asset. -/
structure NamesAsset (parts : List (List Char)) : Prop where
  filled : parts ≠ []
  inside : ['.', '.'] ∉ parts
  relative : ∀ first, parts.head? = some first → ':' ∉ first

/-- Segments below the folder of all assets, which may stand in front already. -/
def anchored (parts : List (List Char)) : List (List Char) :=
  if parts.head? = some root then parts else root :: parts

theorem canonicalSegments_eq_ok_iff :
    canonicalSegments raw = .ok parts ↔
      NamesAsset (segments raw) ∧ parts = anchored (segments raw) := by
  unfold canonicalSegments
  cases segments raw with
  | nil => exact iff_of_false nofun fun named => named.1.filled rfl
  | cons first rest =>
      dsimp only
      split
      next up =>
        exact iff_of_false nofun fun named => named.1.inside (List.contains_iff_mem.mp up)
      next inside =>
        split
        next drive =>
          exact iff_of_false nofun fun named =>
            named.1.relative first rfl (List.contains_iff_mem.mp drive)
        next relative =>
          have named : NamesAsset (first :: rest) := by
            refine ⟨nofun, fun up => inside (List.contains_iff_mem.mpr up), ?_⟩
            rintro _ ⟨⟩ drive
            exact relative (List.contains_iff_mem.mpr drive)
          have placed : anchored (first :: rest) =
              if first = root then first :: rest else root :: first :: rest := by
            simp [anchored]
          rw [placed]
          split <;> simp [named, eq_comm]

theorem canonicalSegments_eq_error_iff :
    (∃ fault, canonicalSegments raw = .error fault) ↔ ¬ NamesAsset (segments raw) := by
  cases spelled : canonicalSegments raw with
  | error fault =>
      refine iff_of_true ⟨fault, rfl⟩ fun named => ?_
      rw [canonicalSegments_eq_ok_iff.mpr ⟨named, rfl⟩] at spelled
      cases spelled
  | ok parts =>
      refine iff_of_false ?_ (not_not.mpr (canonicalSegments_eq_ok_iff.mp spelled).1)
      rintro ⟨_, ⟨⟩⟩

theorem head?_anchored (parts : List (List Char)) : (anchored parts).head? = some root := by
  unfold anchored
  split
  next starts => exact starts
  · rfl

theorem getLast?_anchored (filled : parts ≠ []) : (anchored parts).getLast? = parts.getLast? := by
  unfold anchored
  split
  · rfl
  · exact List.getLast?_cons_of_ne_nil filled

/-- Names that start at the folder of all assets. -/
structure IsCanonical (parts : List (List Char)) : Prop where
  starts : parts.head? = some root
  names : ∀ part ∈ parts, IsName part

theorem isCanonical_anchored (named : NamesAsset (segments raw)) :
    IsCanonical (anchored (segments raw)) where
  starts := head?_anchored (segments raw)
  names := by
    have own : ∀ part ∈ segments raw, IsName part := fun part member =>
      isName_of_mem_segments member fun up => named.inside (up ▸ member)
    intro part member
    unfold anchored at member
    split at member
    · exact own part member
    · rcases List.mem_cons.mp member with rfl | later
      · exact isName_root
      · exact own part later

/-! ## Paths -/

theorem toList_join (parts : List (List Char)) :
    (join parts).toList = List.intercalate ['/'] parts := String.toList_ofList

section

variable (sound : IsCanonical parts)

include sound

theorem IsCanonical.filled : parts ≠ [] := by
  intro none
  have starts := sound.starts
  rw [none] at starts
  cases starts

theorem splitSlashes_join : Text.splitSlashes [] (join parts).toList = parts := by
  rw [toList_join]
  exact Text.splitSlashes_intercalate parts sound.filled fun part member =>
    (sound.names part member).slash

theorem pathParts_join : Text.pathParts (join parts) = parts.map String.ofList := by
  rw [Text.pathParts, splitSlashes_join sound]

theorem eq_of_join {others : List (List Char)} (again : IsCanonical others)
    (same : join parts = join others) : parts = others := by
  rw [← splitSlashes_join sound, same, splitSlashes_join again]

theorem join_root : join parts = "Assets" ∨ ∃ rest, join parts = "Assets/" ++ rest := by
  cases parts with
  | nil => exact absurd rfl sound.filled
  | cons first rest =>
      cases sound.starts
      cases rest with
      | nil => exact .inl rfl
      | cons next others =>
          refine .inr ⟨join (next :: others), ?_⟩
          rw [← String.toList_inj, String.toList_append, toList_join, toList_join,
            Text.intercalate_slash_cons _ (List.cons_ne_nil next others)]
          rfl

theorem backslash_not_mem_join : '\\' ∉ (join parts).toList := by
  rw [toList_join]
  intro inside
  rcases Text.mem_intercalate_slash inside with slash | ⟨part, member, own⟩
  · cases slash
  · exact (sound.names part member).backslash own

end

theorem fileName_join (sound : IsCanonical (front ++ [last])) :
    fileName (join (front ++ [last])) = String.ofList last := by
  rw [fileName, splitSlashes_join sound, List.getLast?_concat]
  rfl

theorem canonical_eq_ok_iff :
    canonical raw = .ok path ↔
      NamesAsset (segments raw) ∧ join (anchored (segments raw)) = path := by
  rw [canonical]
  cases spelled : canonicalSegments raw with
  | error fault =>
      have refused := canonicalSegments_eq_error_iff.mp ⟨fault, spelled⟩
      exact iff_of_false nofun fun named => refused named.1
  | ok parts =>
      obtain ⟨named, rfl⟩ := canonicalSegments_eq_ok_iff.mp spelled
      simp [Except.map, named]

theorem canonical_eq_error_iff :
    (∃ fault, canonical raw = .error fault) ↔ ¬ NamesAsset (segments raw) := by
  rw [← canonicalSegments_eq_error_iff, canonical]
  cases canonicalSegments raw <;> simp [Except.map]

/-- The parts that a spelling names, between separators of either kind and without the blanks around
the whole. -/
def namedParts (raw : String) : List String :=
  (Text.pathParts ((Text.trim raw).map unifySeparator)).filter fun part =>
    part ≠ "" ∧ part ≠ "."

theorem namedParts_eq (raw : String) : namedParts raw = (segments raw).map String.ofList := by
  have seen : ∀ part : List Char,
      decide (String.ofList part ≠ "" ∧ String.ofList part ≠ ".") = isSegment part := by
    intro part
    rw [Bool.eq_iff_iff, decide_eq_true_eq, isSegment_iff]
    simp [← String.toList_inj]
  rw [namedParts, segments, Text.pathParts, String.toList_map, Text.trim, String.toList_ofList,
    List.filter_map]
  exact congrArg (List.map String.ofList) (List.filter_congr fun part _ => seen part)

theorem not_namesAsset_iff :
    ¬ NamesAsset (segments raw) ↔
      namedParts raw = [] ∨ ".." ∈ namedParts raw ∨
        ∃ first, (namedParts raw).head? = some first ∧ ':' ∈ first.toList := by
  have up : ".." ∈ namedParts raw ↔ ['.', '.'] ∈ segments raw := by
    rw [namedParts_eq, List.mem_map]
    constructor
    · rintro ⟨part, member, same⟩
      rw [← String.toList_inj, String.toList_ofList] at same
      have dots : part = ['.', '.'] := same
      exact dots ▸ member
    · exact fun member => ⟨_, member, rfl⟩
  have drive : (∃ first, (namedParts raw).head? = some first ∧ ':' ∈ first.toList) ↔
      ∃ first, (segments raw).head? = some first ∧ ':' ∈ first := by
    rw [namedParts_eq, List.head?_map]
    simp
  rw [up, drive, namedParts_eq, List.map_eq_nil_iff]
  constructor
  · intro refused
    by_contra named
    simp only [not_or, not_exists, not_and] at named
    exact refused ⟨named.1, named.2.1, named.2.2⟩
  · rintro (none | up | ⟨first, starts, drive⟩) named
    · exact named.filled none
    · exact named.inside up
    · exact named.relative first starts drive

theorem anchored_segments (raw : String) :
    (anchored (segments raw)).map String.ofList =
      if (namedParts raw).head? = some "Assets" then namedParts raw
      else "Assets" :: namedParts raw := by
  have starts : (namedParts raw).head? = some "Assets" ↔ (segments raw).head? = some root := by
    rw [namedParts_eq, List.head?_map, Option.map_eq_some_iff]
    simp only [← String.toList_inj, String.toList_ofList]
    exact exists_eq_right
  unfold anchored
  split
  next own => rw [if_pos (starts.mpr own), namedParts_eq]
  next other =>
    rw [if_neg fun own => other (starts.mp own), namedParts_eq]
    rfl

/-- An accepted spelling leads along names, and its canonical path ends as the spelling does. -/
theorem exists_names (spelled : canonical raw = .ok path) :
    ∃ front last, path = join (front ++ [last]) ∧ IsCanonical (front ++ [last]) ∧
      (namedParts raw).getLast? = some (String.ofList last) := by
  obtain ⟨named, rfl⟩ := canonical_eq_ok_iff.mp spelled
  have sound := isCanonical_anchored named
  have ends := getLast?_anchored named.filled
  rw [List.getLast?_eq_some_getLast named.filled] at ends
  obtain ⟨front, split⟩ := List.getLast?_eq_some_iff.mp ends
  refine ⟨front, _, by rw [split], split ▸ sound, ?_⟩
  rw [namedParts_eq, List.getLast?_map, List.getLast?_eq_some_getLast named.filled]
  rfl

/-- A spelling is refused exactly if it names nothing, names the folder above or starts with a drive.
Any other one leads to the place below the folder of all assets that its parts name, by single steps
down.  Importing it looks there and, in the second place, for the last of these steps, but nowhere
else. -/
theorem canonical_stays_inside (raw : String) :
    (∀ path, canonical raw = .ok path →
      (path = "Assets" ∨ ∃ rest, path = "Assets/" ++ rest) ∧ '\\' ∉ path.toList ∧
        (∀ part ∈ Text.pathParts path, part ≠ "" ∧ part ≠ "." ∧ part ≠ "..") ∧
        (Text.pathParts path = if (namedParts raw).head? = some "Assets" then namedParts raw
          else "Assets" :: namedParts raw) ∧
        (Text.pathParts path).getLast? = some (fileName path) ∧
        Text.pathParts (fileName path) = [fileName path]) ∧
    (∀ store cache candidate, candidate ∈ (ImportCache.importAsset cache store raw).asked →
      ∃ path, canonical raw = .ok path ∧
        (candidate = .project path ∨ candidate = .secondary (fileName path))) ∧
    ((∃ fault, canonical raw = .error fault) ↔
      namedParts raw = [] ∨ ".." ∈ namedParts raw ∨
        ∃ first, (namedParts raw).head? = some first ∧ ':' ∈ first.toList) := by
  refine ⟨?_, ?_, ?_⟩
  · intro path spelled
    have named := (canonical_eq_ok_iff.mp spelled).1
    have whole : Text.pathParts path = (anchored (segments raw)).map String.ofList := by
      rw [← (canonical_eq_ok_iff.mp spelled).2, pathParts_join (isCanonical_anchored named)]
    obtain ⟨front, last, rfl, sound, -⟩ := exists_names spelled
    have parts := pathParts_join sound
    have own := sound.names last (by simp)
    refine ⟨join_root sound, backslash_not_mem_join sound, ?_, ?_, ?_, ?_⟩
    · intro part member
      rw [parts, List.mem_map] at member
      obtain ⟨name, there, rfl⟩ := member
      have plain := sound.names name there
      simp only [ne_eq, ← String.toList_inj, String.toList_ofList]
      exact ⟨plain.filled, plain.here, plain.up⟩
    · rw [whole, anchored_segments]
    · rw [parts, fileName_join sound]
      simp
    · rw [fileName_join sound, Text.pathParts, String.toList_ofList,
        Text.splitSlashes_of_not_mem [] last own.slash]
      rfl
  · intro store cache candidate asked
    obtain ⟨path, spelled, searched⟩ := ImportCache.mem_find_of_asked asked
    exact ⟨path, spelled, AssetStore.candidate_of_asked searched⟩
  · rw [canonical_eq_error_iff, not_namesAsset_iff]

/-! ## Canonical paths as spellings -/

theorem trimChars_join (starts : (front ++ [last]).head? = some root) :
    Text.trimChars (join (front ++ [last])).toList =
      List.intercalate ['/'] (front ++ [Text.dropBlankEnd last]) := by
  rw [toList_join]
  cases front with
  | nil =>
      cases starts
      rfl
  | cons first rest =>
      cases starts
      have filled : root :: rest ≠ [] := List.cons_ne_nil root rest
      have capital : ∃ cs, List.intercalate ['/'] (root :: rest) = 'A' :: cs := by
        cases rest with
        | nil => exact ⟨_, rfl⟩
        | cons next others =>
            rw [Text.intercalate_slash_cons root (List.cons_ne_nil next others)]
            exact ⟨_, rfl⟩
      obtain ⟨cs, front⟩ := capital
      rw [Text.intercalate_slash_concat filled, Text.intercalate_slash_concat filled, front,
        List.cons_append, Text.trimChars_cons (by decide), ← List.cons_append,
        Text.dropBlankEnd_append (by decide)]

section

variable (sound : IsCanonical (front ++ [last]))

include sound

/-- Read as a spelling, a canonical path loses the blanks at its end. -/
theorem segments_join :
    segments (join (front ++ [last])) =
      front ++ [Text.dropBlankEnd last].filter isSegment := by
  have own : IsName last := sound.names last (by simp)
  have whole : ∀ part ∈ front ++ [Text.dropBlankEnd last], '/' ∉ part ∧ '\\' ∉ part := by
    intro part member
    rcases List.mem_append.mp member with early | late
    · have name := sound.names part (List.mem_append_left _ early)
      exact ⟨name.slash, name.backslash⟩
    · rw [List.mem_singleton.mp late]
      have less := Text.dropBlankEnd_subset last
      exact ⟨fun inside => own.slash (less inside), fun inside => own.backslash (less inside)⟩
  have unified : '\\' ∉ List.intercalate ['/'] (front ++ [Text.dropBlankEnd last]) := by
    intro inside
    rcases Text.mem_intercalate_slash inside with slash | ⟨part, member, further⟩
    · cases slash
    · exact (whole part member).2 further
  have kept : front.filter isSegment = front := by
    rw [List.filter_eq_self]
    intro part member
    have name := sound.names part (List.mem_append_left _ member)
    exact isSegment_iff.mpr ⟨name.filled, name.here⟩
  rw [segments, trimChars_join sound.starts, map_unifySeparator_of_not_mem unified,
    Text.splitSlashes_intercalate _ (by simp) fun part member => (whole part member).1,
    List.filter_append, kept]

theorem head?_segments_join : (segments (join (front ++ [last]))).head? = some root := by
  rw [segments_join sound]
  have starts := sound.starts
  cases front with
  | nil =>
      cases starts
      rfl
  | cons first rest => exact starts

theorem namesAsset_join :
    NamesAsset (segments (join (front ++ [last]))) ↔ Text.dropBlankEnd last ≠ ['.', '.'] := by
  have first := head?_segments_join sound
  constructor
  · intro named up
    apply named.inside
    rw [segments_join sound, up]
    exact List.mem_append_right _ (List.mem_singleton_self _)
  · intro inside
    refine ⟨?_, ?_, ?_⟩
    · intro none
      rw [none] at first
      cases first
    · intro up
      rw [segments_join sound] at up
      rcases List.mem_append.mp up with early | late
      · exact (sound.names _ (List.mem_append_left _ early)).up rfl
      · exact inside (List.mem_singleton.mp (List.mem_filter.mp late).1).symm
    · intro part here
      cases first.symm.trans here
      decide

theorem canonical_join_error_iff :
    (∃ fault, canonical (join (front ++ [last])) = .error fault) ↔
      Text.dropBlankEnd last = ['.', '.'] := by
  rw [canonical_eq_error_iff, namesAsset_join sound, not_not]

theorem canonical_join_self_iff :
    canonical (join (front ++ [last])) = .ok (join (front ++ [last])) ↔
      Text.dropBlankEnd last = last := by
  have own : IsName last := sound.names last (by simp)
  have placed : anchored (segments (join (front ++ [last]))) =
      front ++ [Text.dropBlankEnd last].filter isSegment := by
    rw [anchored, if_pos (head?_segments_join sound), segments_join sound]
  rw [canonical_eq_ok_iff]
  constructor
  · intro again
    have parts := eq_of_join (isCanonical_anchored again.1) sound again.2
    rw [placed, List.append_cancel_left_eq] at parts
    have member : last ∈ [Text.dropBlankEnd last].filter isSegment := by
      rw [parts]
      exact List.mem_singleton_self last
    exact (List.mem_singleton.mp (List.mem_filter.mp member).1).symm
  · intro bare
    have kept : [last].filter isSegment = [last] :=
      List.filter_cons_of_pos (isSegment_iff.mpr ⟨own.filled, own.here⟩)
    refine ⟨(namesAsset_join sound).mpr (by rw [bare]; exact own.up), ?_⟩
    rw [placed, bare, kept]

end

/-- A canonical path is its own canonical path, and leads to what was imported under it, exactly if
the last part of its spelling ends in no blank; it is even refused if that part is `..` with blanks
behind. -/
theorem canonical_again_iff {raw path : String} (spelled : canonical raw = .ok path) :
    (namedParts raw).getLast? = some (fileName path) ∧
      (canonical path = .ok path ↔ ¬ Text.EndsBlank (fileName path)) ∧
      ((∃ fault, canonical path = .error fault) ↔
        Text.dropBlankEnd (fileName path).toList = "..".toList) ∧
      ∀ (store : AssetStore) (raws : List String) (asset : ImportedAsset), raw ∈ raws →
        store.answer raw = .ok asset →
          ((store.cacheAfter raws).importAsset store path =
              ⟨.ok asset, store.cacheAfter raws, []⟩ ↔ ¬ Text.EndsBlank (fileName path)) := by
  obtain ⟨front, last, rfl, sound, ends⟩ := exists_names spelled
  have self : canonical (join (front ++ [last])) = .ok (join (front ++ [last])) ↔
      ¬ Text.EndsBlank (fileName (join (front ++ [last]))) := by
    rw [canonical_join_self_iff sound, Text.dropBlankEnd_eq_self_iff, fileName_join sound]
  refine ⟨?_, self, ?_, ?_⟩
  · rw [ends, fileName_join sound]
  · rw [canonical_join_error_iff sound, fileName_join sound, String.toList_ofList]
    rfl
  · intro store raws asset member found
    rw [AssetStore.importAsset_canonical_iff member spelled found]
    exact self

/-- A store with one image in its project. -/
def heroStore : AssetStore where
  probe candidate :=
    .ok (if candidate = .project "Assets/art/ . /hero.png" then some (4, 2) else none)
  describe := AssetCandidate.describe

/-- Blanks and dots between separators leave a path that is its own canonical path. -/
theorem canonical_again_hero :
    canonical " /art\\ . //hero.png\\. " = .ok "Assets/art/ . /hero.png" ∧
      canonical "Assets/art/ . /hero.png" = .ok "Assets/art/ . /hero.png" ∧
      ∃ asset, heroStore.answer " /art\\ . //hero.png\\. " = .ok asset ∧
        (heroStore.cacheAfter [" /art\\ . //hero.png\\. "]).importAsset heroStore
            "Assets/art/ . /hero.png" =
          ⟨.ok asset, heroStore.cacheAfter [" /art\\ . //hero.png\\. "], []⟩ := by
  have spelled : canonical " /art\\ . //hero.png\\. " = .ok "Assets/art/ . /hero.png" := rfl
  obtain ⟨-, self, -, known⟩ := canonical_again_iff spelled
  have mark : ¬ Text.EndsBlank (fileName "Assets/art/ . /hero.png") := by decide
  refine ⟨spelled, self.mpr mark, _, rfl, ?_⟩
  exact (known heroStore _ _ (List.mem_singleton_self _) rfl).mpr mark

/-- A blank in front of the last separators stays in the canonical path and is dropped when this is
read again; a name of dots and blanks then even turns into the folder above. -/
theorem canonical_drops_blank_again :
    canonical "hero.png /" = .ok "Assets/hero.png " ∧
      canonical "Assets/hero.png " = .ok "Assets/hero.png" ∧
      canonical ".. /" = .ok "Assets/.. " ∧
      canonical "Assets/.. " =
        .error (.invalidPath "Assets/.. " "path must not contain '..'") := by
  decide

end GameScenes.AssetPath
