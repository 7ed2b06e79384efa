import GameScenes.Proofs.Build.Actions
import GameScenes.Proofs.Text.Dictionary
import GameScenes.Proofs.Text.Trimming

/-!
# Arguments of commands

A prepared action has one argument for each parameter of its command.  Where an action spells the
name of a parameter in several ways, the spelling that comes first in the order of the keys is taken,
and the others are passed over.  So an argument that is spelled exactly is taken unless another
spelling of its name stands before it (`prepare_takes_first_spelling`).
-/

set_option autoImplicit false

namespace GameScenes.Behavior

open Dictionary (Ascending)
open Document (Action)
open Scene (ButtonAction)

/-! ## Spellings -/

/-- The argument that a name stands for if an exact spelling goes before all others. -/
def exactFirst? (args : List (String × Json)) (name : String) : Option (String × Json) :=
  (args.find? (·.1 == name)).or (args.find? fun arg => Text.sameLetters arg.1 name)

/-- That of all arguments that spell a name, up to the case of letters, one has the least key. -/
structure FirstSpelling (args : List (String × Json)) (name : String) (arg : String × Json) :
    Prop where
  given : arg ∈ args
  alike : Text.sameLetters arg.1 name = true
  first : ∀ other ∈ args, Text.sameLetters other.1 name = true → arg.1 ≤ other.1

/-- That an argument is spelled exactly and another spelling of its name stands before it. -/
def Overruled (args : List (String × Json)) (name : String) : Prop :=
  ∃ own ∈ args, own.1 = name ∧
    ∃ other ∈ args, Text.sameLetters other.1 name = true ∧ other.1 < name

section

variable {args : List (String × Json)} {name : String} {arg other : String × Json}

theorem FirstSpelling.unique (ascending : Ascending args) (taken : FirstSpelling args name arg)
    (again : FirstSpelling args name other) : arg = other :=
  ascending.eq_of_key taken.given again.given
    (le_antisymm (taken.first other again.given again.alike)
      (again.first arg taken.given taken.alike))

theorem firstSpelling_of_find? (ascending : Ascending args)
    (found : (args.find? fun arg => Text.sameLetters arg.1 name) = some arg) :
    FirstSpelling args name arg := by
  obtain ⟨alike, before, after, rfl, others⟩ := List.find?_eq_some_iff_append.mp found
  refine ⟨List.mem_append_right _ (List.mem_cons_self ..), alike, ?_⟩
  intro other member same
  rcases List.mem_append.mp member with earlier | later
  · have different := others other earlier
    rw [same] at different
    cases different
  · rcases List.mem_cons.mp later with rfl | behind
    · exact le_refl _
    · obtain ⟨-, sorted, -⟩ := List.pairwise_append.mp ascending
      exact ((List.pairwise_cons.mp sorted).1 other behind).le

/-- An exact spelling goes first unless it is overruled. -/
theorem exactFirst?_eq_iff (ascending : Ascending args) (taken : FirstSpelling args name arg) :
    exactFirst? args name = some arg ↔ ¬ Overruled args name := by
  unfold exactFirst?
  cases exact_ : args.find? (·.1 == name) with
  | some own =>
      have given := List.mem_of_find?_eq_some exact_
      have named : own.1 = name := beq_iff_eq.mp (List.find?_eq_some_iff_append.mp exact_).1
      rw [Option.some_or, Option.some.injEq]
      constructor
      · rintro rfl ⟨-, -, -, other, member, alike, before⟩
        have least := taken.first other member alike
        rw [named] at least
        exact absurd before (not_lt.mpr least)
      · intro free
        have least := taken.first own given (by rw [named, Text.sameLetters_self])
        refine ascending.eq_of_key given taken.given (le_antisymm ?_ least)
        rw [named]
        exact not_lt.mp fun before =>
          free ⟨own, given, named, arg, taken.given, taken.alike, before⟩
  | none =>
      have spelled : args.find? (fun arg => Text.sameLetters arg.1 name) = some arg := by
        cases found : args.find? fun arg => Text.sameLetters arg.1 name with
        | none => exact absurd taken.alike (List.find?_eq_none.mp found arg taken.given)
        | some least =>
            rw [(firstSpelling_of_find? ascending found).unique ascending taken]
      rw [Option.none_or, spelled]
      refine iff_of_true rfl ?_
      rintro ⟨own, given, named, -⟩
      exact List.find?_eq_none.mp exact_ own given (beq_iff_eq.mpr named)

end

/-! ## Values -/

section

variable {command : String} {args : List (String × Json)} {values result : Dictionary FieldValue}

/-- What is found for a parameter comes from the first spelling of its name. -/
theorem firstSpelling_of_argument? (ascending : Ascending args) {param : FieldSchema} {raw : Json}
    (found : argument? args param = some raw) :
    raw.isNull = false ∧ ∃ arg, FirstSpelling args param.name arg ∧ arg.2 = raw := by
  obtain ⟨there, given⟩ := Option.filter_eq_some_iff.mp found
  obtain ⟨arg, spelled, rfl⟩ := Option.map_eq_some_iff.mp there
  exact ⟨by simpa using given, arg, firstSpelling_of_find? ascending spelled, rfl⟩

theorem coerceArguments_cons_ok_iff {param : FieldSchema} {rest : List FieldSchema} :
    coerceArguments command args values (param :: rest) = .ok result ↔
      ∃ raw value, argument? args param = some raw ∧
        coerce Scene.Graph.empty LayerTable.builtin none param.kind raw = .ok value ∧
        coerceArguments command args (values.insert param.name value) rest = .ok result := by
  rw [coerceArguments]
  cases argument? args param with
  | none => simp
  | some raw =>
      cases fits : coerce Scene.Graph.empty LayerTable.builtin none param.kind raw with
      | error cause => simp [fits]
      | ok value => simp [fits]

theorem coerceArguments_ascending {params : List FieldSchema}
    (coerced : coerceArguments command args values params = .ok result)
    (ascending : Ascending values.entries) : Ascending result.entries := by
  induction params generalizing values with
  | nil =>
      cases coerced
      exact ascending
  | cons param rest ih =>
      obtain ⟨raw, value, -, -, further⟩ := coerceArguments_cons_ok_iff.mp coerced
      exact ih further (ascending.insertEntry param.name value)

theorem coerceArguments_names {params : List FieldSchema}
    (coerced : coerceArguments command args values params = .ok result) (name : String) :
    name ∈ result.entries.map (·.1) ↔
      (∃ p ∈ params, p.name = name) ∨ name ∈ values.entries.map (·.1) := by
  induction params generalizing values with
  | nil =>
      cases coerced
      simp
  | cons param rest ih =>
      obtain ⟨raw, value, -, -, further⟩ := coerceArguments_cons_ok_iff.mp coerced
      rw [ih further, Dictionary.insert, Dictionary.mem_keys_insertEntry, List.exists_mem_cons_iff,
        eq_comm (a := name), or_left_comm, or_assoc]

/-- Parameters of other names leave a value as it is. -/
theorem coerceArguments_get?_of_ne {params : List FieldSchema}
    (coerced : coerceArguments command args values params = .ok result) {name : String}
    (others : ∀ p ∈ params, p.name ≠ name) : result.get? name = values.get? name := by
  induction params generalizing values with
  | nil =>
      cases coerced
      rfl
  | cons param rest ih =>
      obtain ⟨raw, value, -, -, further⟩ := coerceArguments_cons_ok_iff.mp coerced
      rw [ih further fun p member => others p (List.mem_cons_of_mem _ member),
        Dictionary.get?_insert, if_neg (others param (List.mem_cons_self ..)).symm]

/-- The last parameter of a name decides its value. -/
theorem coerceArguments_get?_last {before : List FieldSchema} {param : FieldSchema}
    {after : List FieldSchema}
    (coerced : coerceArguments command args values (before ++ param :: after) = .ok result)
    (last : ∀ q ∈ after, q.name ≠ param.name) :
    ∃ raw value, argument? args param = some raw ∧
      coerce Scene.Graph.empty LayerTable.builtin none param.kind raw = .ok value ∧
      result.get? param.name = some value := by
  induction before generalizing values with
  | nil =>
      obtain ⟨raw, value, found, fits, further⟩ := coerceArguments_cons_ok_iff.mp coerced
      refine ⟨raw, value, found, fits, ?_⟩
      rw [coerceArguments_get?_of_ne further last, Dictionary.get?_insert, if_pos rfl]
  | cons first rest ih =>
      obtain ⟨-, value, -, -, further⟩ := coerceArguments_cons_ok_iff.mp coerced
      exact ih further

end

/-! ## Prepared actions -/

/-- How the arguments of a prepared action come from those that a document gives. -/
structure PreparedFrom (command : Command) (args : List (String × Json))
    (prepared : List (String × FieldValue)) : Prop where
  ascending : Ascending prepared
  names : ∀ name, name ∈ prepared.map (·.1) ↔ ∃ p ∈ command.params, p.name = name
  known : ∀ arg ∈ args, ∃ p ∈ command.params, Text.sameLetters p.name arg.1 = true
  /-- Of several parameters of one name the last one gives the value its kind. -/
  taken : ∀ before p after, command.params = before ++ p :: after →
    (∀ q ∈ after, q.name ≠ p.name) →
      ∃ arg value, FirstSpelling args p.name arg ∧ arg.2.isNull = false ∧
        coerce .empty .builtin none p.kind arg.2 = .ok value ∧ (p.name, value) ∈ prepared
  exact_ : ∀ p ∈ command.params, ∀ arg, FirstSpelling args p.name arg →
    (exactFirst? args p.name = some arg ↔ ¬ Overruled args p.name)

/-- An action that is prepared has one argument for each parameter, which comes from the first
spelling of its name. -/
theorem prepare_takes_first_spelling {table : CommandTable} {sceneNames : List String}
    {action : Action} {prepared : ButtonAction} (ascending : Ascending action.args)
    (accepted : table.prepare sceneNames action = .ok prepared) :
    ∃ command, table.find? action.command = some command ∧ prepared.command = command.name ∧
      PreparedFrom command action.args prepared.args := by
  obtain ⟨command, values, found, known, coerced, -, rfl⟩ :=
    CommandTable.prepare_eq_ok_iff.mp accepted
  refine ⟨command, found, rfl, ?_⟩
  refine ⟨?ascending, ?names, ?known, ?taken, ?exact_⟩
  case ascending => exact coerceArguments_ascending coerced .nil
  case names =>
    intro name
    rw [coerceArguments_names coerced]
    simp [Dictionary.empty]
  case known =>
    intro arg given
    have belongs := List.find?_eq_none.mp (Option.map_eq_none_iff.mp known) arg given
    simpa using belongs
  case taken =>
    intro before p after params last
    rw [params] at coerced
    obtain ⟨raw, value, spelled, fits, there⟩ := coerceArguments_get?_last coerced last
    obtain ⟨given, arg, first, rfl⟩ := firstSpelling_of_argument? ascending spelled
    exact ⟨arg, value, first, given, fits, Dictionary.mem_of_lookup there⟩
  case exact_ => exact fun p _ arg first => exactFirst?_eq_iff ascending first

/-! ## An action that names a scene twice -/

def loadScene : Command := ⟨"LoadScene", [⟨"scene", .text⟩], requireScene⟩

def twiceNamedScene : Action :=
  ⟨"LoadScene", [("Scene", .text "Menu"), ("scene", .text "Level1")]⟩

theorem argument?_twiceNamedScene :
    argument? twiceNamedScene.args ⟨"scene", .text⟩ = some (.text "Menu") := by
  have alike : Text.sameLetters "Scene" "scene" = true := by decide +kernel
  simp [argument?, twiceNamedScene, alike, Json.isNull]

theorem prepare_twiceNamedScene :
    builtinCommands.prepare ["Menu", "Level1"] twiceNamedScene =
      .ok ⟨"LoadScene", [("scene", .text "Menu")]⟩ := by
  have coerced : coerceArguments loadScene.name twiceNamedScene.args Dictionary.empty
      loadScene.params = .ok ⟨[("scene", .text "Menu")]⟩ :=
    coerceArguments_cons_ok_iff.mpr
      ⟨.text "Menu", .text "Menu", argument?_twiceNamedScene, rfl, rfl⟩
  refine CommandTable.prepare_eq_ok_iff.mpr ⟨loadScene, _, rfl, ?_, coerced, ?_, rfl⟩
  · decide +kernel
  · decide +kernel

/-- The parameter is spelled exactly in the second place, and its argument is the one in the first. -/
theorem prepare_takes_first_spelling_scene :
    Ascending twiceNamedScene.args ∧
      builtinCommands.prepare ["Menu", "Level1"] twiceNamedScene =
        .ok ⟨"LoadScene", [("scene", .text "Menu")]⟩ ∧
      ∃ command, builtinCommands.find? twiceNamedScene.command = some command ∧
        "LoadScene" = command.name ∧
        PreparedFrom command twiceNamedScene.args [("scene", .text "Menu")] := by
  have ascending : Ascending twiceNamedScene.args := by
    refine List.pairwise_pair.mpr ?_
    decide
  exact ⟨ascending, prepare_twiceNamedScene,
    prepare_takes_first_spelling ascending prepare_twiceNamedScene⟩

/-- An argument that is spelled exactly and fits is given up for one whose name has a capital. -/
theorem prepare_gives_up_exact_scene :
    builtinCommands.prepare ["Menu", "Level1"] twiceNamedScene =
        .ok ⟨"LoadScene", [("scene", .text "Menu")]⟩ ∧
      exactFirst? twiceNamedScene.args "scene" = some ("scene", .text "Level1") ∧
      coerce .empty .builtin none .text (.text "Level1") = .ok (.text "Level1") ∧
      ("scene", FieldValue.text "Level1") ∉ [("scene", FieldValue.text "Menu")] := by
  refine ⟨prepare_twiceNamedScene, rfl, rfl, ?_⟩
  simp

end GameScenes.Behavior
