import GameScenes.Proofs.Document.Acceptance
import GameScenes.Proofs.Document.Form

/-!
# Unknown members of documents

Every record of a document has its own keys; members with other keys are passed over, whatever their
values are.  So a document to which such a member is added anywhere is read as before, with the same
faults (`read_passes_over`).
-/

set_option autoImplicit false

namespace GameScenes.Document

open Json

/-! ## The records of a document -/

def planeForm : Form := .record [(["x"], .plain), (["y"], .plain)]

def spaceForm : Form := .record [(["x"], .plain), (["y"], .plain), (["z"], .plain)]

/-- An angle that is given by an object. -/
def Rotation.form : Form := .record [(["z"], .plain)]

def Reference.form : Form :=
  .record [(["path"], .plain), (["childName", "child"], .plain),
    (["globalName", "name", "global"], .plain), (["tag"], .plain)]

def Transform.form : Form :=
  .record [(["position"], spaceForm), (["rotation"], Rotation.form), (["scale"], spaceForm)]

def Sprite.form : Form :=
  .record [(["path"], .plain), (["pixelsPerUnit"], .plain), (["sortingLayer"], .plain),
    (["orderInLayer", "order"], .plain), (["color"], .plain)]

def Rigidbody.form : Form :=
  .record [(["bodyType"], .plain), (["gravityScale"], .plain), (["freezeRotation"], .plain),
    (["constraints"], .plain)]

def Collider.form : Form :=
  .record [(["type", "kind"], .plain), (["autoSize"], .plain), (["size"], planeForm),
    (["radius"], .plain), (["offset"], planeForm), (["isTrigger"], .plain),
    (["points"], .list planeForm)]

def Physics.form : Form :=
  .record [(["rigidbody"], Rigidbody.form), (["colliders"], .list Collider.form),
    (["collider"], Collider.form)]

/-- The keys of the parameters are names of their own. -/
def Binding.form : Form := .record [(["name"], .plain), (["parameters"], .plain)]

def Object.form : Form :=
  .record [(["id"], .plain), (["name"], .plain), (["tag"], .plain), (["layer"], .plain),
    (["parent"], Reference.form), (["transform"], Transform.form), (["sprite"], Sprite.form),
    (["physics"], Physics.form), (["scripts", "behaviors"], .list Binding.form)]

def Tile.form : Form := .record [(["name"], .plain), (["x"], .plain), (["y"], .plain)]

def Tileset.form : Form :=
  .record [(["name"], .plain), (["image", "path", "atlas"], .plain), (["tileWidth"], .plain),
    (["tileHeight"], .plain), (["tileSize"], .plain), (["pixelsPerUnit"], .plain),
    (["filterMode"], .plain), (["compression"], .plain), (["tiles"], .list Tile.form)]

/-- The keys of the legend are characters of the rows. -/
def Grid.form : Form := .record [(["rows"], .plain), (["legend"], .plain), (["empty"], .plain)]

def Tilemap.form : Form :=
  .record [(["name"], .plain), (["tileset"], .plain), (["origin"], planeForm),
    (["cellSize"], planeForm), (["grid"], Grid.form), (["collider"], .plain),
    (["sortingLayer"], .plain), (["orderInLayer", "order"], .plain)]

def CanvasSettings.form : Form :=
  .record [(["renderMode"], .plain), (["referenceResolution"], planeForm)]

def RectTransform.form : Form :=
  .record [(["anchorMin"], planeForm), (["anchorMax"], planeForm), (["pivot"], planeForm),
    (["anchoredPosition"], planeForm), (["sizeDelta"], planeForm)]

/-- The keys of the arguments are names of their own. -/
def Action.form : Form := .record [(["command"], .plain), (["args"], .plain)]

def Element.form : Form :=
  .record [(["id"], .plain), (["name"], .plain), (["type", "kind"], .plain),
    (["rectTransform"], RectTransform.form), (["text"], .plain), (["fontSize"], .plain),
    (["color"], .plain), (["sprite"], .plain), (["onClick"], Action.form),
    (["scripts", "behaviors"], .list Binding.form)]

def Camera.form : Form :=
  .record [(["orthographic"], .plain), (["size"], .plain), (["position"], spaceForm)]

def Scene.form : Form :=
  .record [(["name"], .plain), (["camera"], Camera.form), (["backgroundColor"], .plain),
    (["uiSettings"], CanvasSettings.form),
    (["gameObjects", "entities"], .list Object.form), (["tilesets"], .list Tileset.form),
    (["tilemaps"], .list Tilemap.form), (["ui"], .list Element.form)]

def Settings.form : Form :=
  .record [(["tags"], .plain), (["layers"], .plain), (["sortingLayers"], .plain),
    (["defaultPixelsPerUnit"], .plain)]

def metadataForm : Form := .record [(["title"], .plain)]

def Game.form : Form :=
  .record [(["metadata"], metadataForm), (["title"], .plain), (["settings"], Settings.form),
    (["tilesets"], .list Tileset.form), (["scenes"], .list Scene.form)]

/-- That a document gains a member in some record.  Where the document itself is the game, that
member does not make it a document with a game inside. -/
inductive Gains : Json → Json → Prop
  | inGame {root root' : Json} : (root.get? "game").isSome = true →
      (Form.record [(["game"], Game.form)]).Gains root root' → Gains root root'
  | atRoot {root root' : Json} : root.get? "game" = none → root'.get? "game" = none →
      Game.form.Gains root root' → Gains root root'

/-! ## Decoders fit the forms of their records -/

theorem plainField {ρ α : Type} {name : String} {decode : Decoder α} {put : α → ρ → ρ} :
    FieldFits (RecordField.of name decode put) ([name], .plain) := .of (fits_plain decode)

theorem fits_vector2 : planeForm.Fits vector2 := fits_record (.cons plainField (.cons plainField .nil))

theorem fits_spaceFields (name : String) (blank : Vector3) :
    spaceForm.Fits (Decoder.record name spaceFields blank) :=
  fits_record (.cons plainField (.cons plainField (.cons plainField .nil)))

/-- A key that stands for a field is not one that stands for none. -/
theorem ne_of_fieldForm? {fields : List (List String × Form)} {key other : String} {form : Form}
    (known : fieldForm? fields key = some form) (unknown : ∀ field ∈ fields, other ∉ field.1) :
    key ≠ other := by
  rintro rfl
  obtain ⟨field, found, -⟩ := Option.map_eq_some_iff.mp known
  have contains := List.find?_some found
  exact unknown field (List.mem_of_find?_eq_some found) (by simpa using contains)

/-- The value of a key that stands for a field is the one that was there, or it gained a member. -/
theorem get?_of_gains {fields : List (List String × Form)} {j j' : Json}
    (gains : (Form.record fields).Gains j j') (key : String) {form : Form}
    (known : fieldForm? fields key = some form) :
    j'.get? key = j.get? key ∨
      ∃ inner inner', j.get? key = some inner ∧ j'.get? key = some inner' ∧
        form.Gains inner inner' := by
  cases gains with
  | member value unknown =>
      have different := ne_of_fieldForm? known unknown
      left
      simp [get?, List.lookup_append, List.lookup_cons, beq_eq_false_iff_ne.mpr different]
  | @inMember _ before _ other _ inside gained there inner =>
      by_cases same : key = other
      · subst same
        rw [known] at there
        cases there
        cases earlier : before.lookup key with
        | some j => exact .inl (by simp [get?, List.lookup_append, earlier])
        | none =>
            exact .inr ⟨inside, gained, by simp [get?, List.lookup_append, earlier],
              by simp [get?, List.lookup_append, earlier], inner⟩
      · left
        simp [get?, List.lookup_append, List.lookup_cons, beq_eq_false_iff_ne.mpr same]
  | inPlace _ _ => exact .inl rfl

theorem Rotation.fits : Rotation.form.Fits Rotation.decode := by
  intro j j' gains
  have same : j'.get? "z" = j.get? "z" := by
    rcases get?_of_gains gains "z" rfl with same | ⟨_, _, -, -, inner⟩
    · exact same
    · cases inner
  rcases gains.isContainer with ⟨members, members', rfl, rfl⟩ | ⟨items, items', rfl, rfl⟩
  · simp only [get?] at same
    simp only [Rotation.decode, Decoder.single, fail, same]
  · rfl

theorem Hint.fits : Reference.form.Fits Hint.decode := by
  have fits : Reference.form.Fits
      (Decoder.record "StructuredReference" Reference.fields Reference.blank) :=
    fits_record (.cons plainField (.cons (plainField.orElse _) (.cons (plainField.orElse _)
      (.cons plainField .nil))))
  intro j j' gains
  have same := fits j j' gains
  rcases gains.isContainer with ⟨members, members', rfl, rfl⟩ | ⟨items, items', rfl, rfl⟩
  · simp only [Hint.decode, same]
  · simp only [Hint.decode, same]

theorem Transform.fits : Transform.form.Fits Transform.decode :=
  fits_record (.cons (.of (fits_spaceFields _ _)) (.cons (.of (fits_optional Rotation.fits))
    (.cons (.of (fits_spaceFields _ _)) .nil)))

theorem Sprite.fits : Sprite.form.Fits Sprite.decode :=
  fits_record (.cons plainField (.cons plainField (.cons plainField
    (.cons (plainField.orElse _) (.cons plainField .nil)))))

theorem Rigidbody.fits : Rigidbody.form.Fits Rigidbody.decode :=
  fits_record (.cons plainField (.cons plainField (.cons plainField (.cons plainField .nil))))

theorem Collider.fits : Collider.form.Fits Collider.decode :=
  fits_record (.cons (plainField.orElse _) (.cons plainField
    (.cons (.of (fits_optional fits_vector2)) (.cons plainField (.cons (.of fits_vector2)
      (.cons plainField (.cons (.of (fits_list fits_vector2)) .nil)))))))

theorem Physics.fits : Physics.form.Fits Physics.decode :=
  fits_record (.cons (.of (fits_optional Rigidbody.fits))
    (.cons (.of (fits_list Collider.fits)) (.cons (.of (fits_optional Collider.fits)) .nil)))

theorem Binding.fits : Binding.form.Fits Binding.decode :=
  fits_record (.cons plainField (.cons plainField .nil))

theorem Object.fits : Object.form.Fits Object.decode :=
  fits_record (.cons plainField (.cons plainField (.cons plainField (.cons plainField
    (.cons (.of (fits_optional Hint.fits)) (.cons (.of Transform.fits)
      (.cons (.of (fits_optional Sprite.fits)) (.cons (.of (fits_optional Physics.fits))
        (.cons (.orElse (.of (fits_list Binding.fits)) _) .nil)))))))))

theorem Tile.fits : Tile.form.Fits Tile.decode :=
  fits_record (.cons plainField (.cons plainField (.cons plainField .nil)))

theorem Tileset.fits : Tileset.form.Fits Tileset.decode :=
  fits_record (.cons plainField (.cons (plainField.orElse _) (.cons plainField (.cons plainField
    (.cons plainField (.cons plainField (.cons plainField (.cons plainField
      (.cons (.of (fits_list Tile.fits)) .nil)))))))))

theorem Grid.fits : Grid.form.Fits Grid.decode :=
  fits_record (.cons plainField (.cons plainField (.cons plainField .nil)))

theorem Tilemap.fits : Tilemap.form.Fits Tilemap.decode :=
  fits_record (.cons plainField (.cons plainField (.cons (.of fits_vector2)
    (.cons (.of (fits_optional fits_vector2)) (.cons (.of Grid.fits) (.cons plainField
      (.cons plainField (.cons (plainField.orElse _) .nil))))))))

theorem CanvasSettings.fits : CanvasSettings.form.Fits CanvasSettings.decode :=
  fits_record (.cons plainField (.cons (.of fits_vector2) .nil))

theorem RectTransform.fits : RectTransform.form.Fits RectTransform.decode :=
  fits_record (.cons (.of fits_vector2) (.cons (.of fits_vector2) (.cons (.of fits_vector2)
    (.cons (.of fits_vector2) (.cons (.of fits_vector2) .nil)))))

theorem Action.fits : Action.form.Fits Action.decode :=
  fits_record (.cons plainField (.cons plainField .nil))

theorem Element.fits : Element.form.Fits Element.decode :=
  fits_record (.cons plainField (.cons plainField (.cons (plainField.orElse _)
    (.cons (.of RectTransform.fits) (.cons plainField (.cons plainField (.cons plainField
      (.cons plainField (.cons (.of (fits_optional Action.fits))
        (.cons (.orElse (.of (fits_list Binding.fits)) _) .nil))))))))))

theorem Camera.fits : Camera.form.Fits Camera.decode :=
  fits_record (.cons plainField (.cons plainField (.cons (.of (fits_spaceFields _ _)) .nil)))

theorem Scene.fits : Scene.form.Fits Scene.decode :=
  fits_record (.cons plainField (.cons (.of Camera.fits) (.cons plainField
    (.cons (.of CanvasSettings.fits) (.cons (.orElse (.of (fits_list Object.fits)) _)
      (.cons (.of (fits_list Tileset.fits)) (.cons (.of (fits_list Tilemap.fits))
        (.cons (.of (fits_list Element.fits)) .nil))))))))

theorem Settings.fits : Settings.form.Fits Settings.decode :=
  fits_record (.cons plainField (.cons plainField (.cons plainField (.cons plainField .nil))))

theorem fits_metadata : metadataForm.Fits metadataTitle := fits_record (.cons plainField .nil)

/-! ## Sections and scenes -/

theorem decodeSection_of_fits {α : Type} {form : Form} {decode : Decoder α}
    (fits : form.Fits decode) {j j' : Json} (gains : form.Gains j j') (path : String) :
    decodeSection decode path j' = decodeSection decode path j := by
  simp only [decodeSection, fits j j' gains]

section
variable {game game' : Json} (gains : Game.form.Gains game game')
include gains

theorem readTitle_of_gains : readTitle game' = readTitle game := by
  have title : game'.get? "title" = game.get? "title" := by
    rcases get?_of_gains gains "title" rfl with same | ⟨_, _, -, -, inner⟩
    · exact same
    · cases inner
  unfold readTitle
  rcases get?_of_gains gains "metadata" rfl with same | ⟨_, _, there, gained, inner⟩
  · rw [title, same]
  · simp only [title, there, gained, decodeSection_of_fits fits_metadata inner]

theorem readSettings_of_gains : readSettings game' = readSettings game := by
  unfold readSettings
  rcases get?_of_gains gains "settings" rfl with same | ⟨_, _, there, gained, inner⟩
  · rw [same]
  · simp only [there, gained, decodeSection_of_fits Settings.fits inner]

end

theorem readTilesetItems_of_gains {j j' : Json} (gains : Tileset.form.Gains j j')
    (before after : List Json) (position : Nat) :
    readTilesetItems position (before ++ j' :: after) =
      readTilesetItems position (before ++ j :: after) := by
  induction before generalizing position with
  | nil =>
      simp only [List.nil_append, readTilesetItems, decodeSection_of_fits Tileset.fits gains]
  | cons item rest ih => simp only [List.cons_append, readTilesetItems, ih]

theorem readTilesets_of_gains {game game' : Json} (gains : Game.form.Gains game game') :
    readTilesets game' = readTilesets game := by
  unfold readTilesets
  rcases get?_of_gains gains "tilesets" rfl with same | ⟨_, _, there, gained, inner⟩
  · rw [same]
  · cases inner with
    | inItem item =>
        rw [there, gained]
        exact readTilesetItems_of_gains item _ _ 0

theorem readScene_of_gains {j j' : Json} (gains : Scene.form.Gains j j') (index : Nat) :
    readScene index j' = readScene index j := by
  have name : j'.get? "name" = j.get? "name" := by
    rcases get?_of_gains gains "name" rfl with same | ⟨_, _, -, -, inner⟩
    · exact same
    · cases inner
  obtain ⟨kind, isObject⟩ := gains.kind
  simp only [readScene, name, kind, isObject, Scene.fits j j' gains]

theorem readScenes_of_gains {j j' : Json} (gains : Scene.form.Gains j j')
    (before after : List Json) :
    (before ++ j' :: after).mapIdx readScene = (before ++ j :: after).mapIdx readScene := by
  simp only [List.mapIdx_append, List.mapIdx_cons, readScene_of_gains gains]

/-! ## Documents -/

theorem readGame_of_gains {game game' : Json} (gains : Game.form.Gains game game') :
    readGame game' = readGame game := by
  unfold readGame assembled
  rw [readTitle_of_gains gains, readSettings_of_gains gains, readTilesets_of_gains gains]
  rcases get?_of_gains gains "scenes" rfl with same | ⟨_, _, there, gained, inner⟩
  · rw [same]
  · cases inner with
    | inItem item =>
        rw [there, gained]
        simp only [readScenes_of_gains item]

theorem ofJson_of_gains {root root' : Json} (gains : Gains root root') :
    Game.ofJson root' = Game.ofJson root := by
  rw [ofJson_eq, ofJson_eq]
  cases gains with
  | inGame there inside =>
      rcases inside.isContainer with ⟨members, members', rfl, rfl⟩ | ⟨items, items', rfl, rfl⟩
      · unfold Game.section?
        dsimp only
        rcases get?_of_gains inside "game" rfl with same | ⟨game, game', before, gained, inner⟩
        · rw [same]
          cases found : (Json.object members).get? "game" with
          | none =>
              rw [found] at there
              cases there
          | some game => cases game <;> rfl
        · rw [before, gained]
          rcases inner.isContainer with ⟨others, others', rfl, rfl⟩ | ⟨items, items', rfl, rfl⟩
          · exact readGame_of_gains inner
          · rfl
      · cases there
  | atRoot missing still inside =>
      rcases inside.isContainer with ⟨members, members', rfl, rfl⟩ | ⟨items, items', rfl, rfl⟩
      · unfold Game.section?
        dsimp only
        rw [missing, still]
        exact readGame_of_gains inside
      · rfl

/-- A document that gains a member which no record of it knows is read as before: as the same game with
the same faults, or with the same rejection.  So are two texts of the document without and with the
member, provided that neither is too long or too crowded. -/
theorem read_passes_over {root root' : Json} (gains : Gains root root') :
    Game.ofJson root' = Game.ofJson root ∧
      ∀ raw raw' : String, raw.length ≤ maxCharacters → raw'.length ≤ maxCharacters →
        readBounded maxEntries raw.toList = .ok root →
        readBounded maxEntries raw'.toList = .ok root' → Game.read raw' = Game.read raw := by
  refine ⟨ofJson_of_gains gains, ?_⟩
  intro raw raw' short short' reads reads'
  unfold Game.read
  rw [if_neg (Nat.not_lt.mpr short), if_neg (Nat.not_lt.mpr short'), reads, reads']
  exact ofJson_of_gains gains

/-- A document with one scene and one object, whose parent is given by a reference. -/
def adoption (reference : Json) : Json :=
  .object [("game", .object [("scenes", .array [.object [("gameObjects",
    .array [.object [("parent", reference)]])]])])]

def plainReference : Json := .object [("tag", .text "Hero")]

/-- A reference with a member that references do not have. -/
def moodyReference : Json := .object [("mood", .array [.null]), ("tag", .text "Hero")]

def plainText : String :=
  "\x7b\"game\":\x7b\"scenes\":[\x7b\"gameObjects\":[\x7b\"parent\":\x7b\"tag\":\"Hero\"\x7d\x7d]" ++
    "\x7d]\x7d\x7d"

def moodyText : String :=
  "\x7b\"game\":\x7b\"scenes\":[\x7b\"gameObjects\":[\x7b\"parent\":\x7b\"mood\":[null]," ++
    "\"tag\":\"Hero\"\x7d\x7d]\x7d]\x7d\x7d"

theorem gains_adoption : Gains (adoption plainReference) (adoption moodyReference) := by
  have reference : Reference.form.Gains plainReference moodyReference :=
    @Form.Gains.member _ [] [("tag", .text "Hero")] "mood" (.array [.null]) (by decide)
  refine .inGame rfl ?_
  refine @Form.Gains.inMember _ [] [] "game" Game.form _ _ rfl ?_
  refine @Form.Gains.inMember _ [] [] "scenes" (.list Scene.form) _ _ rfl ?_
  refine @Form.Gains.inItem _ [] [] _ _ ?_
  refine @Form.Gains.inMember _ [] [] "gameObjects" (.list Object.form) _ _ rfl ?_
  refine @Form.Gains.inItem _ [] [] _ _ ?_
  exact @Form.Gains.inMember _ [] [] "parent" Reference.form _ _ rfl reference

theorem canonical_adoption (reference : Json) :
    (adoption reference).canonical = adoption reference.canonical := by
  simp [adoption, canonical, canonicalItems, canonicalMembers, sortMembers, keepLast]

theorem canonical_moodyReference : moodyReference.canonical = moodyReference := by
  have sorted : sortMembers [("mood", Json.array [.null]), ("tag", .text "Hero")] =
      [("mood", .array [.null]), ("tag", .text "Hero")] := by
    rw [sortMembers, List.mergeSort_of_pairwise (by decide)]
    rfl
  simp only [moodyReference, canonical, canonicalMembers, canonicalItems, sorted]

theorem read_passes_over_mood :
    Gains (adoption plainReference) (adoption moodyReference) ∧
      Game.ofJson (adoption moodyReference) = Game.ofJson (adoption plainReference) ∧
      Game.read moodyText = Game.read plainText := by
  obtain ⟨same, texts⟩ := read_passes_over gains_adoption
  refine ⟨gains_adoption, same, texts _ _ (by decide +kernel) (by decide +kernel) ?_ ?_⟩
  · have whole : readWhole (some maxEntries) plainText.toList = .ok (adoption plainReference) := by
      cbv
    rw [readBounded, whole, Except.map, canonical_adoption]
    simp [plainReference, canonical, canonicalMembers, sortMembers, keepLast]
  · have whole : readWhole (some maxEntries) moodyText.toList = .ok (adoption moodyReference) := by
      cbv
    rw [readBounded, whole, Except.map, canonical_adoption, canonical_moodyReference]

end GameScenes.Document
