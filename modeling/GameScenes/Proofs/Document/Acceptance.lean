import GameScenes.Proofs.Json.Nesting
import GameScenes.Proofs.Json.Repeated
import Mathlib.Data.List.Forall2
import Mathlib.Data.List.Nodup

/-!
# Documents that are accepted

A text is accepted as a document when it is Json of bounded size that holds a game with a list of
scenes; nothing else in it matters for that (`read_accepts_iff`).  What does not decode in such a
document is reported in its place: a scene as a malformed entry of the list, any other part of the
game by one fault.
-/

set_option autoImplicit false

namespace GameScenes.Document

open Json

/-- That a document holds a game with a list of scenes.  The game stands under the key `game`; where
there is no such key, the document itself is the game. -/
structure HoldsGame (root game : Json) (scenes : List Json) : Prop where
  rootIsObject : root.isObject = true
  place : (root.get? "game" = none ∧ game = root) ∨
    (root.get? "game" = some game ∧ game.isObject = true)
  listed : game.get? "scenes" = some (.array scenes)

/-- The parts of a game, beside its scenes, that are decoded on their own. -/
inductive Part where
  | metadata
  | settings
  | tilesets
  | tileset (position : Nat)

/-- That a part of a game is there and does not decode, with the fault that says so. -/
inductive Part.Flawed (game : Json) : Part → SectionFault → Prop
  | metadata {j : Json} {fault : DecodeFault} : game.get? "metadata" = some j →
      metadataTitle j = .error fault →
      Flawed game .metadata ⟨"game.metadata" ++ pathText fault.path, fault.cause.message⟩
  | settings {j : Json} {fault : DecodeFault} : game.get? "settings" = some j →
      Settings.decode j = .error fault →
      Flawed game .settings ⟨"game.settings" ++ pathText fault.path, fault.cause.message⟩
  | tilesets {j : Json} : game.get? "tilesets" = some j → (∀ items, j ≠ .array items) →
      Flawed game .tilesets ⟨"game.tilesets", "expected an array, found " ++ j.kind⟩
  | tileset {items : List Json} {position : Nat} {j : Json} {fault : DecodeFault} :
      game.get? "tilesets" = some (.array items) → items[position]? = some j →
      Tileset.decode j = .error fault →
      Flawed game (.tileset position)
        ⟨"game.tilesets[" ++ Number.natText position ++ "]" ++ pathText fault.path,
          fault.cause.message⟩

/-- A title, or the usual one where it is missing or blank. -/
def titleOrUsual : Option String → String
  | none => "Untitled"
  | some t => if Text.isBlankText t then "Untitled" else t

/-- The title that stands in a game beside the metadata. -/
def plainTitle? (game : Json) : Option String := (game.get? "title").bind text?

/-- How a game with a list of scenes is read. -/
structure ReadsAs (game : Json) (scenes : List Json) (read : Game) : Prop where
  sceneCount : read.scenes.length = scenes.length
  malformed_iff : ∀ k item, scenes[k]? = some item →
    ((∃ fault, read.scenes[k]? = some (SceneEntry.malformed fault) ∧ fault.index = k) ↔
      item.isObject = false ∨ ∃ fault, Scene.decode item = .error fault)
  parsed : ∀ k item scene, scenes[k]? = some item → item.isObject = true →
    Scene.decode item = .ok scene →
    read.scenes[k]? = some (SceneEntry.parsed
      (if Text.isBlankText scene.name then
        { scene with name := "Scene" ++ Number.natText (k + 1) } else scene))
  title_of_metadata : ∀ j given, game.get? "metadata" = some j → metadataTitle j = .ok given →
    read.title = titleOrUsual (given.or (plainTitle? game))
  title_otherwise : (∀ j given, game.get? "metadata" = some j → metadataTitle j ≠ .ok given) →
    read.title = titleOrUsual (plainTitle? game)
  settings_decoded : ∀ j settings, game.get? "settings" = some j →
    Settings.decode j = .ok settings → read.settings = settings
  settings_otherwise : (∀ j settings, game.get? "settings" = some j →
    Settings.decode j ≠ .ok settings) → read.settings = Settings.blank
  tilesets_decoded : ∀ items, game.get? "tilesets" = some (.array items) →
    read.tilesets = items.filterMap fun j => (Tileset.decode j).toOption
  tilesets_otherwise : (∀ items, game.get? "tilesets" ≠ some (.array items)) → read.tilesets = []
  faults : ∃ parts : List Part, parts.Nodup ∧
    (∀ part, part ∈ parts ↔ ∃ fault, part.Flawed game fault) ∧
    List.Forall₂ (Part.Flawed game) parts read.sectionFaults

/-! ## The place of the game -/

/-- The game that is read from the parts of a section. -/
def assembled (game : Json) (scenes : List Json) : Game :=
  { title := (readTitle game).1
    settings := (readSettings game).1
    tilesets := (readTilesets game).1
    scenes := scenes.mapIdx readScene
    sectionFaults := (readTitle game).2 ++ (readSettings game).2 ++ (readTilesets game).2 }

/-- What is read of a game. -/
def readGame (game : Json) : Except Rejection Game :=
  match game.get? "scenes" with
  | some (.array scenes) => .ok (assembled game scenes)
  | _ => .error (.missingSection "game.scenes")

theorem ofJson_eq (root : Json) : Game.ofJson root = (Game.section? root).bind readGame := by
  unfold Game.ofJson readGame
  cases Game.section? root <;> rfl

theorem HoldsGame.unique {root a b : Json} {scenes others : List Json}
    (first : HoldsGame root a scenes) (second : HoldsGame root b others) :
    a = b ∧ scenes = others := by
  have same : a = b := by
    rcases first.place with ⟨missing, rfl⟩ | ⟨there, -⟩
    · rcases second.place with ⟨-, rfl⟩ | ⟨there, -⟩
      · rfl
      · rw [missing] at there
        cases there
    · rcases second.place with ⟨missing, rfl⟩ | ⟨again, -⟩
      · rw [missing] at there
        cases there
      · rw [there] at again
        exact Option.some.inj again
  subst same
  have lists := first.listed.symm.trans second.listed
  simpa using lists

theorem section?_ok_iff (root game : Json) :
    Game.section? root = .ok game ↔ root.isObject = true ∧
      ((root.get? "game" = none ∧ game = root) ∨
        (root.get? "game" = some game ∧ game.isObject = true)) := by
  unfold Game.section?
  cases root with
  | object members =>
      dsimp only
      cases found : (Json.object members).get? "game" with
      | none =>
          simp only [isObject, Except.ok.injEq, true_and, reduceCtorEq, false_and, or_false]
          exact eq_comm
      | some inner =>
          cases inner with
          | object others =>
              simp only [isObject, Except.ok.injEq, true_and, reduceCtorEq, false_and, false_or,
                Option.some.injEq]
              constructor
              · rintro rfl
                exact ⟨rfl, rfl⟩
              · exact fun same => same.1
          | _ =>
              simp only [isObject, reduceCtorEq, true_and, false_and, false_or, Option.some.injEq,
                false_iff, not_and]
              rintro rfl
              simp
  | _ => simp [isObject]

theorem readGame_ok_iff (game : Json) (read : Game) :
    readGame game = .ok read ↔
      ∃ scenes, game.get? "scenes" = some (.array scenes) ∧ read = assembled game scenes := by
  unfold readGame
  split
  next scenes listed => simp [listed, eq_comm]
  next unlisted =>
    simp only [reduceCtorEq, false_iff, not_exists, not_and]
    exact fun scenes listed => absurd listed (unlisted scenes)

theorem ofJson_ok_iff (root : Json) (read : Game) :
    Game.ofJson root = .ok read ↔
      ∃ game scenes, HoldsGame root game scenes ∧ read = assembled game scenes := by
  rw [ofJson_eq]
  constructor
  · intro h
    cases found : Game.section? root with
    | error rejection =>
        rw [found] at h
        cases h
    | ok game =>
        rw [found] at h
        obtain ⟨isObject, place⟩ := (section?_ok_iff root game).mp found
        obtain ⟨scenes, listed, same⟩ := (readGame_ok_iff game read).mp h
        exact ⟨game, scenes, ⟨isObject, place, listed⟩, same⟩
  · rintro ⟨game, scenes, holds, same⟩
    rw [(section?_ok_iff root game).mpr ⟨holds.rootIsObject, holds.place⟩]
    exact (readGame_ok_iff game read).mpr ⟨scenes, holds.listed, same⟩

/-! ## Scenes -/

theorem readScene_malformed_iff (k : Nat) (item : Json) :
    (∃ fault, readScene k item = .malformed fault ∧ fault.index = k) ↔
      item.isObject = false ∨ ∃ fault, Scene.decode item = .error fault := by
  unfold readScene
  cases opened : item.isObject with
  | false => simp
  | true =>
      cases decoded : Scene.decode item with
      | error fault => simp
      | ok scene =>
          simp only [Bool.not_true, Bool.false_eq_true, if_false, reduceCtorEq, exists_false,
            or_false, iff_false, not_exists, not_and]
          intro fault
          split <;> nofun

theorem readScene_parsed (k : Nat) (item : Json) (scene : Scene) (opened : item.isObject = true)
    (decoded : Scene.decode item = .ok scene) :
    readScene k item = .parsed
      (if Text.isBlankText scene.name then
        { scene with name := "Scene" ++ Number.natText (k + 1) } else scene) := by
  unfold readScene
  simp only [opened, decoded, Bool.not_true, Bool.false_eq_true, if_false]
  split <;> rfl

/-! ## Faults of parts -/

/-- That faults report the flawed ones among some parts, each of them once. -/
structure Reported (game : Json) (among : Part → Prop) (parts : List Part)
    (faults : List SectionFault) : Prop where
  nodup : parts.Nodup
  mem_iff : ∀ part, part ∈ parts ↔ among part ∧ ∃ fault, part.Flawed game fault
  each : List.Forall₂ (Part.Flawed game) parts faults

section
variable {game : Json} {among others : Part → Prop} {parts more : List Part}
  {faults further : List SectionFault} {part : Part}

theorem Reported.append (first : Reported game among parts faults)
    (second : Reported game others more further) (apart : ∀ part, among part → ¬ others part) :
    Reported game (fun part => among part ∨ others part) (parts ++ more) (faults ++ further) where
  nodup := by
    refine List.nodup_append'.mpr ⟨first.nodup, second.nodup, fun part here there => ?_⟩
    exact apart part ((first.mem_iff part).mp here).1 ((second.mem_iff part).mp there).1
  mem_iff := by
    intro part
    rw [List.mem_append, first.mem_iff, second.mem_iff, or_and_right]
  each := List.rel_append first.each second.each

theorem Reported.of_flawed {fault : SectionFault} (flawed : part.Flawed game fault) :
    Reported game (· = part) [part] [fault] where
  nodup := List.nodup_singleton part
  mem_iff := by
    intro other
    rw [List.mem_singleton]
    exact ⟨fun same => ⟨same, fault, same ▸ flawed⟩, fun inside => inside.1⟩
  each := .cons flawed .nil

theorem Reported.of_sound (sound : ∀ part fault, among part → ¬ part.Flawed game fault) :
    Reported game among [] [] where
  nodup := List.nodup_nil
  mem_iff := by
    intro part
    simp only [List.not_mem_nil, false_iff, not_and, not_exists]
    exact fun inside fault => sound part fault inside
  each := .nil

/-- A part that is decoded as a section, where it is there, is reported by the faults of the
section. -/
theorem reported_section {α : Type} {decode : Decoder α} {path : String} {found : Option Json}
    (flawed_iff : ∀ fault, part.Flawed game fault ↔ ∃ j wrong, found = some j ∧
      decode j = .error wrong ∧ fault = ⟨path ++ pathText wrong.path, wrong.cause.message⟩) :
    ∃ parts, Reported game (· = part) parts
      (found.elim [] fun j => (decodeSection decode path j).2) := by
  cases found with
  | none =>
      refine ⟨[], .of_sound ?_⟩
      rintro _ fault rfl flawed
      obtain ⟨j, wrong, there, -⟩ := (flawed_iff fault).mp flawed
      cases there
  | some j =>
      unfold decodeSection
      cases decoded : decode j with
      | ok a =>
          simp only [Option.elim_some, decoded]
          refine ⟨[], .of_sound ?_⟩
          rintro _ fault rfl flawed
          obtain ⟨_, wrong, there, failed, -⟩ := (flawed_iff fault).mp flawed
          cases there
          rw [decoded] at failed
          cases failed
      | error wrong =>
          simp only [Option.elim_some, decoded]
          exact ⟨_, .of_flawed ((flawed_iff _).mpr ⟨j, wrong, rfl, decoded, rfl⟩)⟩

end

/-! ## Metadata and settings -/

theorem readTitle_of_none {game : Json} (missing : game.get? "metadata" = none) :
    readTitle game = (titleOrUsual (plainTitle? game), []) := by
  unfold readTitle titleOrUsual plainTitle?
  simp only [missing, Option.bind_none, Option.none_or]
  cases (game.get? "title").bind text? <;> rfl

theorem readTitle_of_ok {game j : Json} {given : Option String}
    (found : game.get? "metadata" = some j) (decoded : metadataTitle j = .ok given) :
    readTitle game = (titleOrUsual (given.or (plainTitle? game)), []) := by
  unfold readTitle titleOrUsual plainTitle? decodeSection
  simp only [found, decoded, Option.bind_some, id_eq]
  cases given.or ((game.get? "title").bind text?) <;> rfl

theorem readTitle_of_error {game j : Json} {fault : DecodeFault}
    (found : game.get? "metadata" = some j) (decoded : metadataTitle j = .error fault) :
    readTitle game = (titleOrUsual (plainTitle? game),
      [⟨"game.metadata" ++ pathText fault.path, fault.cause.message⟩]) := by
  unfold readTitle titleOrUsual plainTitle? decodeSection
  simp only [found, decoded, Option.bind_none, Option.none_or]
  cases (game.get? "title").bind text? <;> rfl

theorem reported_title (game : Json) :
    ∃ parts, Reported game (· = .metadata) parts (readTitle game).2 := by
  have faults : (readTitle game).2 = (game.get? "metadata").elim [] fun j =>
      (decodeSection metadataTitle "game.metadata" j).2 := by
    cases found : game.get? "metadata" with
    | none => rw [readTitle_of_none found, Option.elim_none]
    | some j =>
        cases decoded : metadataTitle j with
        | ok given => simp [readTitle_of_ok found decoded, decodeSection, decoded]
        | error wrong => simp [readTitle_of_error found decoded, decodeSection, decoded]
  rw [faults]
  refine reported_section fun fault => ⟨?_, ?_⟩
  · rintro ⟨found, failed⟩
    exact ⟨_, _, found, failed, rfl⟩
  · rintro ⟨j, wrong, found, failed, rfl⟩
    exact .metadata found failed

theorem readSettings_of_none {game : Json} (missing : game.get? "settings" = none) :
    readSettings game = (Settings.blank, []) := by
  unfold readSettings
  rw [missing]

theorem readSettings_of_ok {game j : Json} {settings : Settings}
    (found : game.get? "settings" = some j) (decoded : Settings.decode j = .ok settings) :
    readSettings game = (settings, []) := by
  unfold readSettings decodeSection
  simp only [found, decoded, Option.getD_some]

theorem readSettings_of_error {game j : Json} {fault : DecodeFault}
    (found : game.get? "settings" = some j) (decoded : Settings.decode j = .error fault) :
    readSettings game = (Settings.blank,
      [⟨"game.settings" ++ pathText fault.path, fault.cause.message⟩]) := by
  unfold readSettings decodeSection
  simp only [found, decoded, Option.getD_none]

theorem reported_settings (game : Json) :
    ∃ parts, Reported game (· = .settings) parts (readSettings game).2 := by
  have faults : (readSettings game).2 = (game.get? "settings").elim [] fun j =>
      (decodeSection Settings.decode "game.settings" j).2 := by
    unfold readSettings
    cases game.get? "settings" <;> rfl
  rw [faults]
  refine reported_section fun fault => ⟨?_, ?_⟩
  · intro flawed
    cases flawed with
    | settings found failed => exact ⟨_, _, found, failed, rfl⟩
  · rintro ⟨j, wrong, found, failed, rfl⟩
    exact .settings found failed

/-! ## Tilesets -/

theorem readTilesetItems_tilesets (position : Nat) (items : List Json) :
    (readTilesetItems position items).1 =
      items.filterMap fun j => (Tileset.decode j).toOption := by
  induction items generalizing position with
  | nil => rfl
  | cons j rest ih =>
      unfold readTilesetItems decodeSection
      cases decoded : Tileset.decode j with
      | ok tileset => simp [ih, decoded, Except.toOption]
      | error fault => simp [ih, decoded, Except.toOption]

/-- The items of a list from one position on report the flawed tilesets from there on. -/
theorem reported_tilesetItems {game : Json} {items : List Json}
    (listed : game.get? "tilesets" = some (.array items)) (rest : List Json) (position : Nat)
    (here : items.drop position = rest) :
    ∃ parts, Reported game (fun part => ∃ k, position ≤ k ∧ part = .tileset k) parts
      (readTilesetItems position rest).2 := by
  induction rest generalizing position with
  | nil =>
      refine ⟨[], .of_sound ?_⟩
      rintro _ fault ⟨k, reached, rfl⟩ flawed
      cases flawed with
      | tileset there found _ =>
          rw [listed] at there
          cases there
          have inside := (List.getElem?_eq_some_iff.mp found).1
          have ended := List.drop_eq_nil_iff.mp here
          omega
  | cons j rest ih =>
      have item : items[position]? = some j := by
        rw [← List.head?_drop, here]
        rfl
      obtain ⟨parts, reported⟩ := ih (position + 1) (by rw [← List.tail_drop, here]; rfl)
      have split : ∀ part : Part, (∃ k, position ≤ k ∧ part = .tileset k) ↔
          part = .tileset position ∨ ∃ k, position + 1 ≤ k ∧ part = .tileset k := by
        intro part
        constructor
        · rintro ⟨k, reached, rfl⟩
          rcases Nat.eq_or_lt_of_le reached with rfl | later
          · exact .inl rfl
          · exact .inr ⟨k, later, rfl⟩
        · rintro (rfl | ⟨k, later, rfl⟩)
          · exact ⟨position, Nat.le_refl _, rfl⟩
          · exact ⟨k, Nat.le_of_succ_le later, rfl⟩
      have apart : ∀ part : Part, part = .tileset position →
          ¬ ∃ k, position + 1 ≤ k ∧ part = .tileset k := by
        rintro _ rfl ⟨k, later, same⟩
        cases same
        omega
      obtain ⟨first, one⟩ : ∃ parts, Reported game (· = .tileset position) parts
          ((some j).elim [] fun j => (decodeSection Tileset.decode
            ("game.tilesets[" ++ Number.natText position ++ "]") j).2) := by
        refine reported_section fun fault => ⟨?_, ?_⟩
        · intro flawed
          cases flawed with
          | tileset there found failed =>
              rw [listed] at there
              cases there
              exact ⟨_, _, item.symm.trans found, failed, rfl⟩
        · rintro ⟨_, wrong, found, failed, rfl⟩
          exact .tileset listed (item.trans found) failed
      simp only [split]
      exact ⟨first ++ parts, one.append reported apart⟩

theorem readTilesets_of_array {game : Json} {items : List Json}
    (listed : game.get? "tilesets" = some (.array items)) :
    readTilesets game = readTilesetItems 0 items := by
  unfold readTilesets
  rw [listed]

theorem readTilesets_of_none {game : Json} (missing : game.get? "tilesets" = none) :
    readTilesets game = ([], []) := by
  unfold readTilesets
  rw [missing]

theorem readTilesets_of_other {game j : Json} (found : game.get? "tilesets" = some j)
    (other : ∀ items, j ≠ .array items) :
    readTilesets game = ([], [⟨"game.tilesets", "expected an array, found " ++ j.kind⟩]) := by
  unfold readTilesets
  rw [found]
  cases j with
  | array items => exact absurd rfl (other items)
  | _ => rfl

theorem reported_tilesets (game : Json) :
    ∃ parts, Reported game (fun part => part = .tilesets ∨ ∃ k, part = .tileset k) parts
      (readTilesets game).2 := by
  cases found : game.get? "tilesets" with
  | none =>
      rw [readTilesets_of_none found]
      refine ⟨[], .of_sound ?_⟩
      rintro _ fault (rfl | ⟨k, rfl⟩) flawed
      · cases flawed with
        | tilesets there _ =>
            rw [found] at there
            cases there
      · cases flawed with
        | tileset there _ _ =>
            rw [found] at there
            cases there
  | some j =>
      by_cases array : ∃ items, j = .array items
      · obtain ⟨items, rfl⟩ := array
        rw [readTilesets_of_array found]
        obtain ⟨parts, reported⟩ := reported_tilesetItems found items 0 rfl
        have whole : Reported game (· = .tilesets) [] [] := by
          refine .of_sound ?_
          rintro _ fault rfl flawed
          cases flawed with
          | tilesets there other =>
              rw [found] at there
              cases there
              exact other items rfl
        refine ⟨[] ++ parts, ?_⟩
        simpa using whole.append reported (by rintro _ rfl ⟨k, -, same⟩; cases same)
      · have other : ∀ items, j ≠ .array items := fun items same => array ⟨items, same⟩
        rw [readTilesets_of_other found other]
        have items : Reported game (fun part => ∃ k, part = .tileset k) [] [] := by
          refine .of_sound ?_
          rintro _ fault ⟨k, rfl⟩ flawed
          cases flawed with
          | tileset there _ _ =>
              rw [found] at there
              cases there
              exact other _ rfl
        exact ⟨_, (Reported.of_flawed (.tilesets found other)).append items
          (by rintro _ rfl ⟨k, same⟩; cases same)⟩

/-! ## Whole documents -/

theorem reported_assembled (game : Json) (scenes : List Json) :
    ∃ parts, parts.Nodup ∧ (∀ part, part ∈ parts ↔ ∃ fault, part.Flawed game fault) ∧
      List.Forall₂ (Part.Flawed game) parts (assembled game scenes).sectionFaults := by
  obtain ⟨inTitle, title⟩ := reported_title game
  obtain ⟨inSettings, settings⟩ := reported_settings game
  obtain ⟨inTilesets, tilesets⟩ := reported_tilesets game
  have all := (title.append settings (by rintro _ rfl same; cases same)).append tilesets
    (by rintro _ (rfl | rfl) (same | ⟨k, same⟩) <;> cases same)
  refine ⟨_, all.nodup, fun part => ?_, all.each⟩
  rw [all.mem_iff]
  refine and_iff_right ?_
  cases part <;> simp

theorem readsAs_assembled (game : Json) (scenes : List Json) :
    ReadsAs game scenes (assembled game scenes) where
  sceneCount := List.length_mapIdx
  malformed_iff := by
    intro k item found
    rw [← readScene_malformed_iff k item]
    simp [assembled, List.getElem?_mapIdx, found]
  parsed := by
    intro k item scene found opened decoded
    simp [assembled, List.getElem?_mapIdx, found, readScene_parsed k item scene opened decoded]
  title_of_metadata := fun j given found decoded =>
    congrArg Prod.fst (readTitle_of_ok found decoded)
  title_otherwise := by
    intro none
    cases found : game.get? "metadata" with
    | none => exact congrArg Prod.fst (readTitle_of_none found)
    | some j =>
        cases decoded : metadataTitle j with
        | ok given => exact absurd decoded (none j given found)
        | error fault => exact congrArg Prod.fst (readTitle_of_error found decoded)
  settings_decoded := fun j settings found decoded =>
    congrArg Prod.fst (readSettings_of_ok found decoded)
  settings_otherwise := by
    intro none
    cases found : game.get? "settings" with
    | none => exact congrArg Prod.fst (readSettings_of_none found)
    | some j =>
        cases decoded : Settings.decode j with
        | ok settings => exact absurd decoded (none j settings found)
        | error fault => exact congrArg Prod.fst (readSettings_of_error found decoded)
  tilesets_decoded := by
    intro items listed
    have read := congrArg Prod.fst (readTilesets_of_array listed)
    rw [readTilesetItems_tilesets] at read
    exact read
  tilesets_otherwise := by
    intro unlisted
    cases found : game.get? "tilesets" with
    | none => exact congrArg Prod.fst (readTilesets_of_none found)
    | some j =>
        refine congrArg Prod.fst (readTilesets_of_other found ?_)
        rintro items rfl
        exact unlisted items found
  faults := reported_assembled game scenes

theorem read_ok_iff (raw : String) (read : Game) :
    Game.read raw = .ok read ↔ raw.length ≤ maxCharacters ∧
      ∃ written game scenes, Spells raw.toList written ∧ written.OpensAtMost nestingLimit ∧
        written.Within maxEntries ∧ HoldsGame written.canonical game scenes ∧
        read = assembled game scenes := by
  unfold Game.read
  by_cases long : maxCharacters < raw.length
  · rw [if_pos long]
    simp only [reduceCtorEq, false_iff, not_and]
    omega
  · rw [if_neg long]
    have short : raw.length ≤ maxCharacters := by omega
    cases bounded : readBounded maxEntries raw.toList with
    | error trouble =>
        simp only [reduceCtorEq, false_iff, not_and, not_exists]
        intro _ written game scenes spells few within
        have whole := (readWhole_none_iff _ _).mpr ⟨spells, few⟩
        have ok := (readBounded_ok_iff maxEntries raw.toList written.canonical).mpr
          ⟨written, (readWhole_ok_iff _ _ _).mpr ⟨whole, within⟩, rfl⟩
        rw [bounded] at ok
        cases ok
    | ok root =>
        obtain ⟨written, whole, rfl⟩ := (readBounded_ok_iff _ _ _).mp bounded
        obtain ⟨plain, within⟩ := (readWhole_ok_iff _ _ _).mp whole
        obtain ⟨spells, few⟩ := (readWhole_none_iff _ _).mp plain
        dsimp only
        rw [ofJson_ok_iff]
        constructor
        · rintro ⟨game, scenes, holds, same⟩
          exact ⟨short, written, game, scenes, spells, few, within, holds, same⟩
        · rintro ⟨-, other, game, scenes, again, -, -, holds, same⟩
          obtain rfl := spells.unique again
          exact ⟨game, scenes, holds, same⟩

/-- A text is accepted exactly when it is short enough, is Json with containers of bounded number and
depth, and holds a game with a list of scenes.  An accepted text has an entry for every scene, which
is malformed exactly where the scene does not decode, and one fault for every other part of the game
that does not decode; such a part is left out or counts as missing. -/
theorem read_accepts_iff (raw : String) :
    ((∃ read, Game.read raw = .ok read) ↔ raw.length ≤ maxCharacters ∧
      ∃ written game scenes, Spells raw.toList written ∧ written.OpensAtMost nestingLimit ∧
        written.Within maxEntries ∧ HoldsGame written.canonical game scenes) ∧
    ∀ read, Game.read raw = .ok read → ∀ written game scenes, Spells raw.toList written →
      HoldsGame written.canonical game scenes → ReadsAs game scenes read := by
  constructor
  · constructor
    · rintro ⟨read, accepted⟩
      obtain ⟨short, written, game, scenes, spells, few, within, holds, -⟩ :=
        (read_ok_iff raw read).mp accepted
      exact ⟨short, written, game, scenes, spells, few, within, holds⟩
    · rintro ⟨short, written, game, scenes, spells, few, within, holds⟩
      exact ⟨assembled game scenes, (read_ok_iff raw _).mpr
        ⟨short, written, game, scenes, spells, few, within, holds, rfl⟩⟩
  · intro read accepted written game scenes spells holds
    obtain ⟨-, other, inner, list, again, -, -, found, rfl⟩ := (read_ok_iff raw read).mp accepted
    obtain rfl := spells.unique again
    obtain ⟨rfl, rfl⟩ := holds.unique found
    exact readsAs_assembled game scenes

/-- A game with a truth value for its metadata, for its tags and for one of two scenes, and with a
tileset that is named by one. -/
def patchyMembers : List (String × Json) :=
  [("metadata", .bool true),
    ("scenes", .array [.bool true, .object [("name", .text "S")]]),
    ("settings", .object [("tags", .bool false)]),
    ("tilesets", .array [.object [("name", .bool true)], .object [("name", .text "a")]]),
    ("title", .text "T")]

def patchyText : String :=
  "\x7b\"game\":\x7b\"metadata\":true,\"scenes\":[true,\x7b\"name\":\"S\"\x7d]," ++
    "\"settings\":\x7b\"tags\":false\x7d," ++
    "\"tilesets\":[\x7b\"name\":true\x7d,\x7b\"name\":\"a\"\x7d],\"title\":\"T\"\x7d\x7d"

theorem patchyText_holdsGame :
    HoldsGame (Json.object [("game", .object patchyMembers)]).canonical
      (Json.object patchyMembers).canonical
      [.bool true, (Json.object [("name", .text "S")]).canonical] where
  rootIsObject := rfl
  place := .inr ⟨by simp [get?_canonical], rfl⟩
  listed := by
    rw [get?_canonical]
    simp [patchyMembers, canonical, canonicalItems]

theorem read_accepts_patchy :
    ∃ read written game scenes, Game.read patchyText = .ok read ∧
      Spells patchyText.toList written ∧ HoldsGame written.canonical game scenes ∧
      ReadsAs game scenes read ∧ read.scenes.length = 2 ∧ read.title = "T" ∧
      read.settings = Settings.blank := by
  have short : patchyText.length ≤ maxCharacters := by decide +kernel
  have bounded : readWhole (some maxEntries) patchyText.toList =
      .ok (.object [("game", .object patchyMembers)]) := by cbv
  obtain ⟨whole, within⟩ := (readWhole_ok_iff _ _ _).mp bounded
  obtain ⟨spells, few⟩ := (readWhole_none_iff _ _).mp whole
  obtain ⟨read, accepted⟩ := (read_accepts_iff patchyText).1.mpr
    ⟨short, _, _, _, spells, few, within, patchyText_holdsGame⟩
  have reads := (read_accepts_iff patchyText).2 read accepted _ _ _ spells patchyText_holdsGame
  refine ⟨read, _, _, _, accepted, spells, patchyText_holdsGame, reads, reads.sceneCount, ?_, ?_⟩
  · rw [reads.title_otherwise]
    · unfold plainTitle?
      rw [get?_canonical]
      rfl
    · intro j given found same
      rw [get?_canonical] at found
      cases found
      change metadataTitle (.bool true) = .ok given at same
      cases same
  · apply reads.settings_otherwise
    intro j settings found same
    rw [get?_canonical] at found
    cases found
    have tags : (Json.object [("tags", .bool false)]).canonical =
        .object [("tags", .bool false)] := by
      simp [canonical, canonicalMembers, sortMembers, keepLast]
    change Settings.decode (Json.object [("tags", .bool false)]).canonical = .ok settings at same
    rw [tags] at same
    cases same

end GameScenes.Document
