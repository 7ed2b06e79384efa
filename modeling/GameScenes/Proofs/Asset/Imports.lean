import GameScenes.Asset.Import
import Mathlib.Data.Finset.Card

/-!
# Importing one asset after the other

A cache that has only been filled by a store holds what the store answers
(`ImportCache.Faithful`).  So importing through it comes to the same as importing through an empty
cache, and only the questions to the store differ: none is asked for an asset that was imported
before (`importEach_transparent`).
-/

set_option autoImplicit false

namespace GameScenes

/-! ## Looking for an asset -/

namespace AssetStore

variable {store : AssetStore} {path raw : String} {asset : ImportedAsset}

/-- What a store answers for a spelling, without any cache. -/
def answer (store : AssetStore) (raw : String) : Except AssetFault ImportedAsset :=
  match AssetPath.canonical raw with
  | .error fault => .error fault
  | .ok path => (store.find raw path).1

theorem answer_of_canonical (spelled : AssetPath.canonical raw = .ok path) :
    store.answer raw = (store.find raw path).1 := by
  rw [answer, spelled]

/-- Which asset is found does not depend on the spelling; only the text of a fault does. -/
theorem find_respelled (found : (store.find raw path).1 = .ok asset) (other : String) :
    (store.find other path).1 = .ok asset ∧ asset.canonicalPath = path := by
  unfold find at found ⊢
  dsimp only at found ⊢
  split at found
  · cases found
  · cases found
    exact ⟨rfl, rfl⟩
  · split at found
    · cases found
    · cases found
      exact ⟨rfl, rfl⟩
    · cases found

/-- The project is asked for the path itself, and the second place for its file name. -/
theorem candidate_of_asked {candidate : AssetCandidate}
    (asked : candidate ∈ (store.find raw path).2) :
    candidate = .project path ∨ candidate = .secondary (AssetPath.fileName path) := by
  unfold find at asked
  dsimp only at asked
  split at asked
  · exact .inl (List.mem_singleton.mp asked)
  · exact .inl (List.mem_singleton.mp asked)
  · split at asked <;> simpa using asked

end AssetStore

/-- The canonical path of the asset that was imported, if one was. -/
def ImportStep.path? (step : ImportStep) : Option String :=
  step.result.toOption.map (·.canonicalPath)

namespace ImportCache

variable {store : AssetStore} {cache : ImportCache} {path raw : String} {asset : ImportedAsset}

/-- The canonical paths of the assets imported so far. -/
def paths (cache : ImportCache) : List String := cache.imported.map (·.1)

theorem lookup_eq_none_iff : cache.imported.lookup path = none ↔ path ∉ cache.paths := by
  rw [List.lookup_eq_none_iff]
  simp only [paths, List.mem_map, not_exists, not_and, bne_iff_ne]
  exact forall₂_congr fun _ _ => ne_comm

theorem isImported_iff : cache.isImported path = true ↔ path ∈ cache.paths := by
  rw [isImported, ← Option.ne_none_iff_isSome, Ne, lookup_eq_none_iff, not_not]

/-- An import fails and leaves the cache as it is, or it repeats an earlier one, or it finds an
asset whose path is new. -/
theorem importAsset_cases (cache : ImportCache) (store : AssetStore) (raw : String) :
    (∃ fault, store.answer raw = .error fault ∧
      (cache.importAsset store raw).result = .error fault ∧
      (cache.importAsset store raw).cache = cache) ∨
    (∃ path asset, AssetPath.canonical raw = .ok path ∧
      cache.imported.lookup path = some asset ∧
      cache.importAsset store raw = ⟨.ok asset, cache, []⟩) ∨
    ∃ path asset, AssetPath.canonical raw = .ok path ∧ path ∉ cache.paths ∧
      (store.find raw path).1 = .ok asset ∧
      cache.importAsset store raw =
        ⟨.ok asset, ⟨(path, asset) :: cache.imported⟩, (store.find raw path).2⟩ := by
  unfold importAsset AssetStore.answer
  cases AssetPath.canonical raw with
  | error fault => exact .inl ⟨fault, rfl, rfl, rfl⟩
  | ok path =>
      dsimp only
      cases known : cache.imported.lookup path with
      | some asset => exact .inr (.inl ⟨path, asset, rfl, known, rfl⟩)
      | none =>
          dsimp only
          have new := lookup_eq_none_iff.mp known
          rcases answered : store.find raw path with ⟨found, asked⟩
          cases found with
          | error fault => exact .inl ⟨fault, rfl, rfl, rfl⟩
          | ok asset =>
              exact .inr (.inr ⟨path, asset, rfl, new, by rw [answered], by rw [answered]⟩)

/-- Nothing is asked but what the search for the canonical path asks. -/
theorem mem_find_of_asked {candidate : AssetCandidate}
    (asked : candidate ∈ (cache.importAsset store raw).asked) :
    ∃ path, AssetPath.canonical raw = .ok path ∧ candidate ∈ (store.find raw path).2 := by
  unfold importAsset at asked
  cases spelled : AssetPath.canonical raw with
  | error fault => simp [spelled] at asked
  | ok path =>
      simp only [spelled] at asked
      cases known : cache.imported.lookup path with
      | some asset => simp [known] at asked
      | none =>
          simp only [known] at asked
          refine ⟨path, rfl, ?_⟩
          rcases answered : store.find raw path with ⟨found, candidates⟩
          rw [answered] at asked
          cases found <;> exact asked

/-! ## Faithful caches -/

/-- That a cache holds each asset once, and as its store answers. -/
structure Faithful (store : AssetStore) (cache : ImportCache) : Prop where
  answers : ∀ {path asset}, cache.imported.lookup path = some asset →
    ∀ raw, (store.find raw path).1 = .ok asset
  distinct : cache.paths.Nodup

theorem faithful_empty (store : AssetStore) : Faithful store empty where
  answers known := by cases known
  distinct := List.nodup_nil

/-- Through a faithful cache an import comes to what the store answers. -/
theorem Faithful.result (faithful : Faithful store cache) (raw : String) :
    (cache.importAsset store raw).result = store.answer raw := by
  rcases cache.importAsset_cases store raw with ⟨fault, answer, result, -⟩ |
    ⟨path, asset, spelled, known, step⟩ | ⟨path, asset, spelled, -, found, step⟩
  · rw [result, answer]
  · rw [step, AssetStore.answer_of_canonical spelled, faithful.answers known raw]
  · rw [step, AssetStore.answer_of_canonical spelled, found]

theorem Faithful.importAsset (faithful : Faithful store cache) (raw : String) :
    Faithful store (cache.importAsset store raw).cache := by
  rcases cache.importAsset_cases store raw with ⟨fault, -, -, same⟩ | ⟨path, asset, -, -, step⟩ |
    ⟨path, asset, -, new, found, step⟩
  · rwa [same]
  · rwa [step]
  · rw [step]
    refine ⟨?_, List.nodup_cons.mpr ⟨new, faithful.distinct⟩⟩
    intro other kept known again
    rw [List.lookup_cons] at known
    split at known
    next same =>
      cases known
      rw [beq_iff_eq.mp same]
      exact (AssetStore.find_respelled found again).1
    · exact faithful.answers known again

/-- No question is asked about an asset that was imported before. -/
theorem not_asked_of_imported (cache : ImportCache) (store : AssetStore) (raw : String)
    (imported : path ∈ cache.paths) :
    .project path ∉ (cache.importAsset store raw).asked ∧
      (AssetPath.canonical raw = .ok path → (cache.importAsset store raw).asked = []) := by
  unfold importAsset
  cases AssetPath.canonical raw with
  | error fault => exact ⟨List.not_mem_nil, fun _ => rfl⟩
  | ok spelled =>
      dsimp only
      cases known : cache.imported.lookup spelled with
      | some asset => exact ⟨List.not_mem_nil, fun _ => rfl⟩
      | none =>
          have other : path ≠ spelled := fun same =>
            lookup_eq_none_iff.mp known (same ▸ imported)
          have apart : .project path ∉ (store.find raw spelled).2 := by
            intro asked
            rcases AssetStore.candidate_of_asked asked with same | same
            · cases same
              exact other rfl
            · cases same
          refine ⟨?_, fun same => absurd (Except.ok.inj same).symm other⟩
          rcases answered : store.find raw spelled with ⟨found, asked⟩
          rw [answered] at apart
          cases found <;> exact apart

/-! ## Sequences of imports -/

/-- What importing assets one after the other comes to. -/
def importEach (store : AssetStore) : ImportCache → List String → List ImportStep
  | _, [] => []
  | cache, raw :: rest =>
      let step := cache.importAsset store raw
      step :: importEach store step.cache rest

theorem Faithful.importEach (faithful : Faithful store cache) (raws : List String) :
    (importEach store cache raws).map (·.result) = raws.map store.answer := by
  induction raws generalizing cache with
  | nil => rfl
  | cons raw rest ih =>
      rw [ImportCache.importEach, List.map_cons, List.map_cons, faithful.result raw,
        ih (faithful.importAsset raw)]

end ImportCache

namespace AssetStore

open ImportCache

/-- The cache that assets leave behind when they are imported one after the other. -/
def cacheAfter (store : AssetStore) (raws : List String) : ImportCache :=
  raws.foldl (fun cache raw => (cache.importAsset store raw).cache) ImportCache.empty

/-- The canonical paths of the assets imported one after the other. -/
def importedPaths (store : AssetStore) (raws : List String) : List String :=
  (importEach store ImportCache.empty raws).filterMap ImportStep.path?

variable (store : AssetStore) (raws : List String)

theorem cacheAfter_snoc (raw : String) :
    store.cacheAfter (raws ++ [raw]) = ((store.cacheAfter raws).importAsset store raw).cache := by
  rw [cacheAfter, List.foldl_append]
  rfl

theorem cacheAfter_faithful : Faithful store (store.cacheAfter raws) := by
  induction raws using List.reverseRecOn with
  | nil => exact faithful_empty store
  | append_singleton raws raw ih =>
      rw [cacheAfter_snoc]
      exact ih.importAsset raw

theorem mem_importedPaths {path : String} :
    path ∈ store.importedPaths raws ↔
      ∃ raw ∈ raws, ∃ asset, store.answer raw = .ok asset ∧ asset.canonicalPath = path := by
  have results : store.importedPaths raws =
      (raws.map store.answer).filterMap fun result => result.toOption.map (·.canonicalPath) := by
    rw [← (faithful_empty store).importEach raws, List.filterMap_map]
    rfl
  rw [results, List.filterMap_map, List.mem_filterMap]
  refine exists_congr fun raw => and_congr_right fun _ => ?_
  cases answer : store.answer raw <;> simp [answer, Except.toOption]

/-- A cache holds the assets that could be imported. -/
theorem mem_paths_cacheAfter (path : String) :
    path ∈ (store.cacheAfter raws).paths ↔ path ∈ store.importedPaths raws := by
  induction raws using List.reverseRecOn with
  | nil => rfl
  | append_singleton raws raw ih =>
      have split : path ∈ store.importedPaths (raws ++ [raw]) ↔
          path ∈ (store.cacheAfter raws).paths ∨
            ∃ asset, store.answer raw = .ok asset ∧ asset.canonicalPath = path := by
        rw [ih]
        simp only [mem_importedPaths, List.mem_append, List.mem_singleton, or_and_right,
          exists_or, exists_eq_left]
      rw [cacheAfter_snoc, split]
      rcases (store.cacheAfter raws).importAsset_cases store raw with ⟨fault, answer, -, same⟩ |
        ⟨known, asset, spelled, found, step⟩ | ⟨new, asset, spelled, -, found, step⟩
      · rw [same, answer]
        simp
      · -- an asset that is known stands in the cache under its own path already
        have kept := (store.cacheAfter_faithful raws).answers found raw
        have answer := (answer_of_canonical spelled).trans kept
        have own : asset.canonicalPath ∈ (store.cacheAfter raws).paths := by
          rw [(find_respelled kept raw).2, ← isImported_iff, isImported, found]
          rfl
        rw [step, answer]
        constructor
        · exact .inl
        · rintro (old | ⟨_, same, rfl⟩)
          · exact old
          · cases same
            exact own
      · have own : asset.canonicalPath = new := (find_respelled found raw).2
        rw [step, answer_of_canonical spelled, found]
        simp [paths, own, or_comm, eq_comm]

section

variable {store : AssetStore} {raw path : String} {raws : List String} {asset : ImportedAsset}

/-- An asset that was imported is known under the canonical path of its spelling. -/
theorem lookup_cacheAfter (member : raw ∈ raws) (spelled : AssetPath.canonical raw = .ok path)
    (found : store.answer raw = .ok asset) :
    (store.cacheAfter raws).imported.lookup path = some asset := by
  have searched : (store.find raw path).1 = .ok asset :=
    (answer_of_canonical spelled).symm.trans found
  have named : asset.canonicalPath = path := (find_respelled searched raw).2
  have inside : path ∈ (store.cacheAfter raws).paths := by
    rw [store.mem_paths_cacheAfter, store.mem_importedPaths]
    exact ⟨raw, member, asset, found, named⟩
  cases known : (store.cacheAfter raws).imported.lookup path with
  | none => exact absurd inside (lookup_eq_none_iff.mp known)
  | some kept =>
      have again := (store.cacheAfter_faithful raws).answers known raw
      cases searched.symm.trans again
      rfl

/-- The canonical path leads to what was imported under it exactly if it is its own canonical
path. -/
theorem importAsset_canonical_iff (member : raw ∈ raws) (spelled : AssetPath.canonical raw = .ok path)
    (found : store.answer raw = .ok asset) :
    (store.cacheAfter raws).importAsset store path = ⟨.ok asset, store.cacheAfter raws, []⟩ ↔
      AssetPath.canonical path = .ok path := by
  have known := lookup_cacheAfter member spelled found
  have named : asset.canonicalPath = path :=
    (find_respelled ((answer_of_canonical spelled).symm.trans found) raw).2
  constructor
  · intro step
    have answered : store.answer path = .ok asset := by
      rw [← (store.cacheAfter_faithful raws).result path, step]
    cases again : AssetPath.canonical path with
    | error fault =>
        rw [answer, again] at answered
        cases answered
    | ok other =>
        have own := (find_respelled ((answer_of_canonical again).symm.trans answered) path).2
        rw [← own, named]
  · intro again
    rw [ImportCache.importAsset, again]
    simp only [known]

end

end AssetStore

namespace ImportCache

/-- Importing assets one after the other gives each result that an empty cache gives.  The count is
that of the paths imported so far, and an import after these asks nothing about such a path and
changes the cache only if it succeeds. -/
theorem importEach_transparent (store : AssetStore) (raws : List String) (next : String) :
    (importEach store empty raws).map (·.result) =
        raws.map (fun raw => (empty.importAsset store raw).result) ∧
      (store.cacheAfter raws).importCount = (store.importedPaths raws).toFinset.card ∧
      (∀ path, (store.cacheAfter raws).isImported path = true ↔
        path ∈ store.importedPaths raws) ∧
      (∀ path ∈ store.importedPaths raws,
        .project path ∉ ((store.cacheAfter raws).importAsset store next).asked ∧
          (AssetPath.canonical next = .ok path →
            ((store.cacheAfter raws).importAsset store next).asked = [])) ∧
      ∀ fault, ((store.cacheAfter raws).importAsset store next).result = .error fault →
        ((store.cacheAfter raws).importAsset store next).cache = store.cacheAfter raws := by
  have fresh := faithful_empty store
  have faithful := store.cacheAfter_faithful raws
  refine ⟨?_, ?_, ?_, ?_, ?_⟩
  · rw [fresh.importEach raws]
    exact List.map_congr_left fun raw _ => (fresh.result raw).symm
  · have same : (store.cacheAfter raws).paths.toFinset = (store.importedPaths raws).toFinset := by
      ext path
      rw [List.mem_toFinset, List.mem_toFinset, store.mem_paths_cacheAfter raws path]
    rw [← same, List.toFinset_card_of_nodup faithful.distinct, paths, List.length_map]
    rfl
  · intro path
    rw [isImported_iff, store.mem_paths_cacheAfter raws path]
  · intro path imported
    exact not_asked_of_imported _ store next ((store.mem_paths_cacheAfter raws path).mpr imported)
  · intro fault failed
    rcases (store.cacheAfter raws).importAsset_cases store next with ⟨_, -, -, same⟩ |
      ⟨path, asset, -, -, step⟩ | ⟨path, asset, -, -, -, step⟩
    · exact same
    · rw [step] at failed
      cases failed
    · rw [step] at failed
      cases failed

end ImportCache

end GameScenes
