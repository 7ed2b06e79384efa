import GameScenes.Proofs.Build.Parallel
import GameScenes.Proofs.Document.Acceptance

/-!
# Malformed scenes

A scene that does not decode is given up and nothing else happens: no other scene, no table and no
list depends on what stands in its place.  Two documents whose scenes are the same, except where
both of them are malformed, are compiled to the same scenes; their artifacts differ in the digest
of the document only (`malformed_scenes_spare_others`).
-/

set_option autoImplicit false

namespace GameScenes

open Storage (Fits Nearness Place)

/-! ## Documents -/

namespace Document

open Json

/-- That two scenes of documents are the same, or both of them are malformed. -/
inductive SceneEntry.SameUnlessMalformed : SceneEntry → SceneEntry → Prop
  | same (entry : SceneEntry) : SameUnlessMalformed entry entry
  | malformed (fault other : SceneFault) : SameUnlessMalformed (.malformed fault) (.malformed other)

/-- That two games have the same settings, the same tilesets and the same scenes, except where both
of them have a malformed scene. -/
structure Game.SameUnlessMalformed (game again : Game) : Prop where
  settings : again.settings = game.settings
  tilesets : again.tilesets = game.tilesets
  scenes : List.Forall₂ SceneEntry.SameUnlessMalformed game.scenes again.scenes

/-- That what stands in the place of a scene does not decode. -/
def IsMalformed (item : Json) : Prop :=
  item.isObject = false ∨ ∃ fault, Scene.decode item = .error fault

/-- The games of two documents that differ in malformed scenes only. -/
theorem assembled_sameUnlessMalformed {game again : Json} {items others : List Json}
    (sections : ∀ key, key ≠ "scenes" → again.get? key = game.get? key)
    (scenes : List.Forall₂ (fun item other => item = other ∨ IsMalformed item ∧ IsMalformed other)
      items others) :
    (assembled game items).SameUnlessMalformed (assembled again others) where
  settings := by
    simp only [assembled, readSettings, sections "settings" (by decide)]
  tilesets := by
    simp only [assembled, readTilesets, sections "tilesets" (by decide)]
  scenes := by
    rw [List.forall₂_iff_get] at scenes ⊢
    obtain ⟨length, pairs⟩ := scenes
    refine ⟨by simpa [assembled] using length, ?_⟩
    intro k left right
    have inside : k < items.length := by simpa [assembled] using left
    have within : k < others.length := by simpa [assembled] using right
    have pair := pairs k inside within
    simp only [assembled, List.get_eq_getElem, List.getElem_mapIdx] at pair ⊢
    rcases pair with same | ⟨first, second⟩
    · rw [same]
      exact .same _
    · obtain ⟨fault, left, -⟩ := (readScene_malformed_iff k _).mpr first
      obtain ⟨other, right, -⟩ := (readScene_malformed_iff k _).mpr second
      rw [left, right]
      exact .malformed fault other

/-- Documents with the same sections, and with the same scenes apart from malformed ones, are read as
games that are the same apart from malformed scenes. -/
theorem read_sameUnlessMalformed {raw other : String} {written rewritten game again : Json}
    {items others : List Json} {read reread : Game} (spells : Spells raw.toList written)
    (spelt : Spells other.toList rewritten) (holds : HoldsGame written.canonical game items)
    (held : HoldsGame rewritten.canonical again others)
    (sections : ∀ key, key ≠ "scenes" → again.get? key = game.get? key)
    (scenes : List.Forall₂ (fun item other => item = other ∨ IsMalformed item ∧ IsMalformed other)
      items others)
    (accepted : Game.read raw = .ok read) (reaccepted : Game.read other = .ok reread) :
    read.SameUnlessMalformed reread := by
  obtain ⟨-, left, first, list, spelled, -, -, found, rfl⟩ := (read_ok_iff raw read).mp accepted
  obtain ⟨-, right, second, rest, respelled, -, -, refound, rfl⟩ :=
    (read_ok_iff other reread).mp reaccepted
  obtain rfl := spells.unique spelled
  obtain rfl := spelt.unique respelled
  obtain ⟨rfl, rfl⟩ := holds.unique found
  obtain ⟨rfl, rfl⟩ := held.unique refound
  exact assembled_sameUnlessMalformed sections scenes

end Document

/-! ## Files -/

namespace ProjectFolder

/-- That two files hold the same, or are those of a scene and hold it with the digests of two documents;
drafts of scenes may hold anything. -/
inductive DigestsApart (project : ProjectFolder) (working : Place) (digest other : String) :
    Nearness
  | same (place : Place) (bytes : ByteArray) :
      DigestsApart project working digest other place bytes bytes
  | draft (stem : String) (bytes others : ByteArray) :
      DigestsApart project working digest other (project.sceneDraftPlace working stem) bytes others
  | scene (artifact : Scene.Artifact) (own : artifact.sourceDigest = digest) :
      DigestsApart project working digest other
        (project.scenePlace working (SceneFile.safeName artifact.name)) (sceneBytes artifact)
        (sceneBytes (artifact.redigested other))

variable (project : ProjectFolder) (working : Place) (digest other : String)

theorem DigestsApart.eq_of_settings {name : String} {bytes others : ByteArray}
    (agree : project.DigestsApart working digest other (project.settingsPlace working name) bytes
      others) : bytes = others := by
  generalize there : project.settingsPlace working name = place at agree
  cases agree with
  | same place bytes => rfl
  | draft stem bytes others =>
      exact absurd there.symm (project.sceneDraftPlace_ne_settingsPlace working stem name)
  | scene artifact own =>
      exact absurd there.symm (project.scenePlace_ne_settingsPlace working _ name)

/-- The files of scenes are neither images nor the list of scenes to build. -/
theorem tolerates_digestsApart :
    project.Tolerates (project.DigestsApart working digest other) working where
  same place bytes := .same place bytes
  images place bytes others agree formed := by
    cases agree with
    | same place bytes => rfl
    | draft stem bytes others =>
        simp [sceneDraftPlace, Storage.fileIn, Image.ofName?_draftName] at formed
    | scene artifact own =>
        have formless := Image.ofName?_sceneFile artifact.name
        rw [SceneFile.fileName] at formless
        simp [scenePlace, Storage.fileIn, formless] at formed
  buildList bytes others agree := agree.eq_of_settings

end ProjectFolder

namespace Build

open Context
open Document (Game SceneEntry SceneFault)
open ProjectFolder (DigestsApart buildListName tablesBytes tablesName)
open Scene (Artifact ButtonAction)
open Tables (Entry)

/-! ## Runs -/

/-- That everything is the same in two contexts that building reads, or that is kept of them. -/
structure Context.SameButLog (c d : Context) : Prop where
  core : c.core = d.core
  ledger : c.ledger = d.ledger

variable {c d : Context}

theorem Context.SameButLog.compileScene (same : c.SameButLog d) (scene : Document.Scene)
    (tilesets : List Document.Tileset) (actions : List (Option ButtonAction))
    (provenance : Provenance) :
    (compileScene c scene tilesets actions provenance).1.SameButLog
      (compileScene d scene tilesets actions provenance).1 where
  core := core_compileScene same.core scene tilesets actions provenance
  ledger := by
    obtain ⟨entries, left, right⟩ :=
      entries_compileScene same.core scene tilesets actions provenance
    rw [left, right, same.ledger]

/-- Two runs for documents with different digests, of which nothing but the faults and the scenes that
were given up may differ otherwise. -/
def Plan.digestsApart (plan : Plan) (other : String) (working : Storage.Place) :
    Likeness plan other working where
  contexts := Context.SameButLog
  aborted _ _ := True
  near := plan.project.DigestsApart working plan.provenance.sourceDigest other
  core same := same.core
  layers same := congrArg (fun ledger => ledger.tables.layers) same.ledger
  located assets same := ⟨congrArg (fun core => { core with assets }) same.core, same.ledger⟩
  faulted _ _ same := ⟨same.core, same.ledger⟩
  built scene actions same := same.compileScene scene plan.tilesets actions plan.provenance
  pushed _ _ := trivial
  tolerates := plan.project.tolerates_digestsApart working _ other
  scenes artifact own :=
    { same := .same
      file := .scene artifact own
      draft := .inr (.draft (SceneFile.safeName artifact.name)) }
  tables {c d} same := by
    rw [show d.tables = c.tables from congrArg Ledger.tables same.ledger.symm]
    exact .of_eq .same _ _ _

variable {plan : Plan} {other : String} {working : Storage.Place}

/-- Whatever two malformed scenes are, they are given up. -/
theorem pairs_of_malformed (fault again : SceneFault) :
    (plan.digestsApart other working).Pairs (.malformed fault) (.malformed again) where
  after abreast _ _ :=
    { abreast with
      contexts := ⟨abreast.contexts.core, abreast.contexts.ledger⟩
      aborted := trivial }
  saved _ _ _ := rfl

theorem pairs_of_sameUnlessMalformed (images : plan.surroundings.SeesImagesOnly)
    {entry again : SceneEntry} (same : entry.SameUnlessMalformed again) :
    (plan.digestsApart other working).Pairs entry again := by
  cases same with
  | same entry => exact .same images entry
  | malformed fault again => exact pairs_of_malformed fault again

/-! ## Preparing -/

theorem sceneNamesOf_sameUnlessMalformed {entries others : List SceneEntry}
    (same : List.Forall₂ SceneEntry.SameUnlessMalformed entries others) :
    sceneNamesOf others = sceneNamesOf entries := by
  unfold sceneNamesOf
  induction same with
  | nil => rfl
  | cons first _ ih =>
      cases first with
      | same =>
          simp only [List.filterMap_cons]
          split
          · exact ih
          · simp only [List.map_cons, ih]
      | malformed fault other => exact ih

/-- A malformed scene has no actions, whatever it is. -/
theorem prepareScenes_sameUnlessMalformed (names : List String) {entries others : List SceneEntry}
    (same : List.Forall₂ SceneEntry.SameUnlessMalformed entries others) (cores : c.core = d.core) :
    (prepareScenes names d others).2 = (prepareScenes names c entries).2 := by
  induction same generalizing c d with
  | nil => rfl
  | @cons entry again rest remaining first _ ih =>
      cases first with
      | malformed fault other => exact congrArg ([] :: ·) (ih cores)
      | same =>
          cases entry with
          | malformed fault => exact congrArg ([] :: ·) (ih cores)
          | parsed scene =>
              have entered : (c.enterScene scene.name).core = (d.enterScene scene.name).core :=
                cores
              have actions := prepareElements_congr names entered scene.ui
              have left := (prepareElements_context names (c.enterScene scene.name) scene.ui).1
              have right := (prepareElements_context names (d.enterScene scene.name) scene.ui).1
              unfold prepareScenes
              dsimp only
              rw [actions]
              refine congrArg (_ :: ·) (ih ?_)
              rw [core_leaveScene, core_leaveScene, left, right, entered]

variable (options : Options) (assets : AssetStore) (tables : Tables) (draws : Draws)

theorem prepare_sameUnlessMalformed {game again : Game} (same : game.SameUnlessMalformed again) :
    (prepare options assets tables draws game).1.SameButLog
        (prepare options assets tables draws again).1 ∧
      (prepare options assets tables draws again).2 =
        (prepare options assets tables draws game).2 := by
  refine ⟨⟨?_, ?_⟩, ?_⟩
  · rw [core_prepare, core_prepare, same.settings]
  · rw [ledger_prepare, ledger_prepare, same.settings]
  · unfold prepare prepareActions
    dsimp only
    rw [sceneNamesOf_sameUnlessMalformed same.scenes]
    apply prepareScenes_sameUnlessMalformed _ same.scenes
    rw [core_recordAll, core_recordAll, same.settings]

/-! ## Games -/

/-- That two runs save the same scenes and leave the same tables and the same list of scenes to build;
their files differ at most in the digests that the artifacts of scenes hold, and in drafts. -/
structure Outcome.SavesAlike (project : ProjectFolder) (working : Storage.Place)
    (digest other : String) (outcome again : Outcome) : Prop where
  ended : (∃ fault, outcome.result = .error fault ∧ again.result = .error fault) ∨
    ∃ report reported, outcome.result = .ok report ∧ again.result = .ok reported ∧
      reported.saved = report.saved ∧ reported.cancelled = report.cancelled
  asked : again.asked = outcome.asked
  draws : again.draws = outcome.draws
  tables : again.storage.disk.get? (project.settingsPlace working tablesName) =
    outcome.storage.disk.get? (project.settingsPlace working tablesName)
  buildList : again.storage.disk.get? (project.settingsPlace working buildListName) =
    outcome.storage.disk.get? (project.settingsPlace working buildListName)
  files : outcome.storage.disk.Matches (project.DigestsApart working digest other)
    again.storage.disk

theorem Outcome.SavesAlike.of_files {project : ProjectFolder} {digest : String}
    {outcome again : Outcome}
    (ended : (∃ fault, outcome.result = .error fault ∧ again.result = .error fault) ∨
      ∃ report reported, outcome.result = .ok report ∧ again.result = .ok reported ∧
        reported.saved = report.saved ∧ reported.cancelled = report.cancelled)
    (asked : again.asked = outcome.asked) (draws : again.draws = outcome.draws)
    (files : outcome.storage.disk.Matches (project.DigestsApart working digest other)
      again.storage.disk) : outcome.SavesAlike project working digest other again where
  ended := ended
  asked := asked
  draws := draws
  tables := (files.get?_eq fun _ _ agree => agree.eq_of_settings).symm
  buildList := (files.get?_eq fun _ _ agree => agree.eq_of_settings).symm
  files := files

section Games

variable (options : Options) {surroundings : Surroundings} (digest other : String)
  (tables : Tables) (draws : Draws) (storage : Storage) {game again : Game}

theorem Plan.ofGame_redigested (surroundings : Surroundings)
    (same : game.SameUnlessMalformed again) :
    Plan.ofGame options surroundings other again =
      (Plan.ofGame options surroundings digest game).redigested other := by
  unfold Plan.ofGame Plan.redigested
  rw [same.tilesets]

/-- Two games that are the same apart from malformed scenes are compiled side by side. -/
theorem together_of_sameUnlessMalformed (images : surroundings.SeesImagesOnly)
    (same : game.SameUnlessMalformed again) :
    ((Plan.ofGame options surroundings digest game).digestsApart other storage.working).Together
      (Progress.start options (surroundings.assets storage.disk) tables draws storage game)
      (Progress.start options (surroundings.assets storage.disk) tables draws storage again) 0
      game.scenes again.scenes
      (prepare options (surroundings.assets storage.disk) tables draws game).2 := by
  apply Likeness.Abreast.run
  · exact
      { contexts := (prepare_sameUnlessMalformed options _ tables draws same).1
        storages := .refl .same storage
        working := rfl
        seen := rfl
        saved := rfl
        aborted := trivial }
  · exact same.scenes.imp fun _ _ pair => pairs_of_sameUnlessMalformed images pair

theorem compileScenes_sameUnlessMalformed (images : surroundings.SeesImagesOnly)
    (same : game.SameUnlessMalformed again) :
    (compileScenes options surroundings digest tables draws storage game).SavesAlike
        options.project storage.working digest other
        (compileScenes options surroundings other tables draws storage again) ∧
      savedArtifacts (sceneSteps options surroundings other tables draws storage again) =
        (savedArtifacts (sceneSteps options surroundings digest tables draws storage game)).map
          (·.redigested other) := by
  obtain ⟨last, cancelled, saved⟩ :=
    together_of_sameUnlessMalformed options digest other tables draws storage images same
  have actions := (prepare_sameUnlessMalformed options (surroundings.assets storage.disk) tables
    draws same).2
  rw [compileScenes_eq_ofRun, compileScenes_eq_ofRun, sceneSteps_eq, sceneSteps_eq, actions,
    Plan.ofGame_redigested options digest other surroundings same]
  refine ⟨.of_files (.inr ⟨_, _, rfl, rfl, ?_, cancelled⟩) ?_ ?_ last.storages.disks, saved⟩
  · exact congrArg Array.toList last.saved
  · exact (congrArg Core.asked last.contexts.core).symm
  · exact (congrArg Ledger.draws last.contexts.ledger).symm

end Games

/-- What stands in the place of a malformed scene has no influence on the other scenes.  Documents that
are the same apart from malformed scenes, compiled with the same options, store and draws into the
same project, save the same scenes, as artifacts that differ in the digest of the document only, and
leave the same tables and the same list of scenes to build. -/
theorem malformed_scenes_spare_others (options : Options) {surroundings : Surroundings}
    (images : surroundings.SeesImagesOnly) (draws : Draws) (storage : Storage)
    {raw other : String} {game again : Game} (read : Game.read raw = .ok game)
    (reread : Game.read other = .ok again) (same : game.SameUnlessMalformed again) :
    (compileGame options surroundings draws storage raw).SavesAlike options.project storage.working
        (Sha256.hexDigest raw) (Sha256.hexDigest other)
        (compileGame options surroundings draws storage other) ∧
      savedArtifacts (gameSteps options surroundings draws storage other) =
        (savedArtifacts (gameSteps options surroundings draws storage raw)).map
          (·.redigested (Sha256.hexDigest other)) := by
  rcases opening_cases options storage with
    ⟨fault, after, ends⟩ | ⟨made, tables, opened, folders, loaded⟩
  · obtain ⟨first, unstarted⟩ := ends surroundings draws raw game read
    obtain ⟨second, stopped⟩ := ends surroundings draws other again reread
    rw [first, second, unstarted, stopped]
    exact ⟨.of_files (.inl ⟨fault, rfl, rfl⟩) rfl rfl (.refl _ .same after.disk), rfl⟩
  · rw [compileGame_of_opened surroundings draws read folders loaded,
      compileGame_of_opened surroundings draws reread folders loaded,
      gameSteps_of_opened surroundings draws read folders loaded,
      gameSteps_of_opened surroundings draws reread folders loaded,
      ← (ProjectFolder.keeps_opened folders loaded).working]
    exact compileScenes_sameUnlessMalformed options _ _ tables draws opened images same

/-- A game with a scene, and with something in the place of a second one. -/
def secondGame (item : Json) : Json :=
  .object [("scenes", .array [.object [("name", .text "A")], item])]

theorem secondGame_holds (item : Json) :
    Document.HoldsGame (Json.object [("game", secondGame item)]).canonical
      (secondGame item).canonical [(Json.object [("name", .text "A")]).canonical, item.canonical] where
  rootIsObject := rfl
  place := .inr ⟨by simp [Json.get?_canonical], rfl⟩
  listed := by
    rw [secondGame, Json.get?_canonical]
    simp [Json.canonical, Json.canonicalItems]

theorem secondGame_sections (item other : Json) {key : String} (apart : key ≠ "scenes") :
    (secondGame other).canonical.get? key = (secondGame item).canonical.get? key := by
  rw [secondGame, secondGame, Json.get?_canonical, Json.get?_canonical]
  simp [apart]

/-- A document with a number in the place of its second scene. -/
def numberedText : String := "\x7b\"game\":\x7b\"scenes\":[\x7b\"name\":\"A\"\x7d,17]\x7d\x7d"

/-- The same document with an object in this place whose tilemaps do not decode. -/
def unpaintedText : String :=
  "\x7b\"game\":\x7b\"scenes\":[\x7b\"name\":\"A\"\x7d,\x7b\"tilemaps\":true\x7d]\x7d\x7d"

theorem secondText_read {raw : String} {item : Json} (short : raw.length ≤ Document.maxCharacters)
    (whole : Json.readWhole (some Document.maxEntries) raw.toList =
      .ok (.object [("game", secondGame item)])) :
    Json.Spells raw.toList (.object [("game", secondGame item)]) ∧
      ∃ game, Game.read raw = .ok game := by
  obtain ⟨plain, within⟩ := (Json.readWhole_ok_iff _ _ _).mp whole
  obtain ⟨spells, few⟩ := (Json.readWhole_none_iff _ _).mp plain
  exact ⟨spells, (Document.read_accepts_iff raw).1.mpr
    ⟨short, _, _, _, spells, few, within, secondGame_holds item⟩⟩

theorem malformed_scenes_spare_others_second :
    ∃ game again, Game.read numberedText = .ok game ∧ Game.read unpaintedText = .ok again ∧
      game.SameUnlessMalformed again ∧ bareSurroundings.SeesImagesOnly ∧
      (compileGame plainOptions bareSurroundings plainDraws bareStorage numberedText).SavesAlike
        plainOptions.project bareStorage.working (Sha256.hexDigest numberedText)
        (Sha256.hexDigest unpaintedText)
        (compileGame plainOptions bareSurroundings plainDraws bareStorage unpaintedText) ∧
      (compileGame plainOptions bareSurroundings plainDraws bareStorage
        unpaintedText).saved.map (·.name) = ["A"] := by
  have first : Json.readWhole (some Document.maxEntries) numberedText.toList =
      .ok (.object [("game", secondGame (.number (.int 17)))]) := by cbv
  have second : Json.readWhole (some Document.maxEntries) unpaintedText.toList =
      .ok (.object [("game", secondGame (.object [("tilemaps", .bool true)]))]) := by cbv
  obtain ⟨spells, game, read⟩ := secondText_read (by decide +kernel) first
  obtain ⟨spelt, again, reread⟩ := secondText_read (by decide +kernel) second
  have number : Document.IsMalformed (Json.number (.int 17)).canonical := .inl rfl
  have object : Document.IsMalformed (Json.object [("tilemaps", .bool true)]).canonical := by
    have members : (Json.object [("tilemaps", .bool true)]).canonical =
        .object [("tilemaps", .bool true)] := by
      simp [Json.canonical, Json.canonicalMembers, Json.sortMembers, Json.keepLast]
    rw [members]
    exact .inr ⟨_, rfl⟩
  have same : game.SameUnlessMalformed again :=
    Document.read_sameUnlessMalformed spells spelt (secondGame_holds _) (secondGame_holds _)
      (fun _ apart => secondGame_sections _ _ apart)
      (.cons (.inl rfl) (.cons (.inr ⟨number, object⟩) .nil)) read reread
  have images : bareSurroundings.SeesImagesOnly := Surroundings.seesImagesOnly_of_fixed _ _
  refine ⟨game, again, read, reread, same, images, ?_, by decide +kernel⟩
  exact (malformed_scenes_spare_others plainOptions images plainDraws bareStorage read reread
    same).1

end Build

end GameScenes
