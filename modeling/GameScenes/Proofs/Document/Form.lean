import GameScenes.Json.Decoder
import Mathlib.Data.List.Forall2

/-!
# What decoders look at

The form of a decoder names the records that it decodes, wherever they stand in a value, with the
keys of their fields.  A value gains a member when one of these records, given as an object, gets a
member with a key that is none of its own.  A decoder that fits its form does not notice
(`Form.Fits`); records, lists and values that may be left out fit when their parts do.
-/

set_option autoImplicit false

namespace GameScenes.Json

/-- Where a decoder looks for records: nowhere, in the items of a list, or in the value itself, which
is a record with the given fields.  Each field has the keys that stand for it. -/
inductive Form where
  | plain
  | list (item : Form)
  | record (fields : List (List String × Form))

/-- The form of the field that a key stands for. -/
def fieldForm? (fields : List (List String × Form)) (key : String) : Option Form :=
  (fields.find? fun field => field.1.contains key).map (·.2)

/-- That a value of a form gains a member: some record in it, given as an object, gets one whose key
stands for none of its fields. -/
inductive Form.Gains : Form → Json → Json → Prop
  | member {fields : List (List String × Form)} {before after : List (String × Json)}
      {key : String} (value : Json) : (∀ field ∈ fields, key ∉ field.1) →
      Gains (.record fields) (.object (before ++ after)) (.object (before ++ (key, value) :: after))
  | inMember {fields : List (List String × Form)} {before after : List (String × Json)}
      {key : String} {form : Form} {j j' : Json} : fieldForm? fields key = some form →
      form.Gains j j' →
      Gains (.record fields) (.object (before ++ (key, j) :: after))
        (.object (before ++ (key, j') :: after))
  | inPlace {fields : List (List String × Form)} {before after : List Json} {keys : List String}
      {form : Form} {j j' : Json} : fields[before.length]? = some (keys, form) → form.Gains j j' →
      Gains (.record fields) (.array (before ++ j :: after)) (.array (before ++ j' :: after))
  | inItem {form : Form} {before after : List Json} {j j' : Json} : form.Gains j j' →
      Gains (.list form) (.array (before ++ j :: after)) (.array (before ++ j' :: after))

/-- That a decoder looks for records at most where its form has them, and there only at the keys of
their fields. -/
def Form.Fits {α : Type} (form : Form) (decode : Decoder α) : Prop :=
  ∀ j j', form.Gains j j' → decode j' = decode j

/-- That a field of a record has the keys and the form that are given. -/
structure FieldFits {ρ : Type} (field : RecordField ρ) (entry : List String × Form) : Prop where
  keys : entry.1 = field.name :: field.aliases
  assign : ∀ j j', entry.2.Gains j j' → field.assign j' = field.assign j

theorem fits_plain {α : Type} (decode : Decoder α) : Form.plain.Fits decode := nofun

theorem Form.Gains.isContainer {form : Form} {j j' : Json} (gains : form.Gains j j') :
    (∃ members members', j = .object members ∧ j' = .object members') ∨
      ∃ items items', j = .array items ∧ j' = .array items' := by
  cases gains with
  | member value _ => exact .inl ⟨_, _, rfl, rfl⟩
  | inMember _ _ => exact .inl ⟨_, _, rfl, rfl⟩
  | inPlace _ _ => exact .inr ⟨_, _, rfl, rfl⟩
  | inItem _ => exact .inr ⟨_, _, rfl, rfl⟩

theorem Form.Gains.kind {form : Form} {j j' : Json} (gains : form.Gains j j') :
    j'.kind = j.kind ∧ j'.isObject = j.isObject := by
  rcases gains.isContainer with ⟨members, members', rfl, rfl⟩ | ⟨items, items', rfl, rfl⟩
  · exact ⟨rfl, rfl⟩
  · exact ⟨rfl, rfl⟩

theorem fits_optional {α : Type} {form : Form} {decode : Decoder α} (fits : form.Fits decode) :
    form.Fits (Decoder.optional decode) := by
  intro j j' gains
  have same := fits j j' gains
  rcases gains.isContainer with ⟨members, members', rfl, rfl⟩ | ⟨items, items', rfl, rfl⟩
  · simp only [Decoder.optional, same]
  · simp only [Decoder.optional, same]

theorem items_gain {α : Type} {form : Form} {decode : Decoder α} (fits : form.Fits decode)
    {j j' : Json} (gains : form.Gains j j') (before after : List Json) (position : Nat) :
    Decoder.items decode position (before ++ j' :: after) =
      Decoder.items decode position (before ++ j :: after) := by
  induction before generalizing position with
  | nil => simp only [List.nil_append, Decoder.items, fits j j' gains]
  | cons item rest ih => simp only [List.cons_append, Decoder.items, ih]

theorem fits_list {α : Type} {form : Form} {decode : Decoder α} (fits : form.Fits decode) :
    (Form.list form).Fits (Decoder.list decode) := by
  intro j j' gains
  cases gains with
  | inItem inner => exact items_gain fits inner _ _ 0

/-! ## Records -/

section
variable {ρ : Type} {field : RecordField ρ} {fields : List (RecordField ρ)}
  {forms : List (List String × Form)}

theorem FieldFits.of {α : Type} {name : String} {decode : Decoder α} {put : α → ρ → ρ}
    {form : Form} (fits : form.Fits decode) :
    FieldFits (RecordField.of name decode put) ([name], form) where
  keys := rfl
  assign := by
    intro j j' gains
    funext r
    simp only [RecordField.of, fits j j' gains]

theorem FieldFits.orElse {keys : List String} {form : Form} (fits : FieldFits field (keys, form))
    (aliases : List String) : FieldFits (field.orElse aliases) (field.name :: aliases, form) where
  keys := rfl
  assign := fits.assign

theorem FieldFits.answersTo {entry : List String × Form} (fits : FieldFits field entry)
    (key : String) : field.answersTo key = entry.1.contains key := by
  rw [fits.keys, List.contains_cons, RecordField.answersTo, Bool.beq_comm]

/-- A key stands for no field of a decoder when it is none of the keys of its form. -/
theorem find?_of_unknown (fits : List.Forall₂ FieldFits fields forms) {key : String}
    (unknown : ∀ entry ∈ forms, key ∉ entry.1) : fields.find? (·.answersTo key) = none := by
  induction fits with
  | nil => rfl
  | @cons field entry _ _ first _ ih =>
      have missed : field.answersTo key = false := by
        rw [first.answersTo]
        simpa using unknown entry (List.mem_cons_self ..)
      rw [List.find?_cons, missed]
      exact ih fun other member => unknown other (List.mem_cons_of_mem _ member)

/-- The field that a key stands for looks at values as the form of the key says. -/
theorem assign_of_fieldForm? (fits : List.Forall₂ FieldFits fields forms) {key : String}
    {form : Form} (known : fieldForm? forms key = some form)
    (found : fields.find? (·.answersTo key) = some field) {j j' : Json} (gains : form.Gains j j') :
    field.assign j' = field.assign j := by
  induction fits with
  | nil => cases known
  | @cons head entry _ _ first _ ih =>
      unfold fieldForm? at known ih
      rw [List.find?_cons] at known found
      rw [first.answersTo] at found
      cases answers : entry.1.contains key with
      | true =>
          rw [answers] at known found
          cases known
          cases found
          exact first.assign j j' gains
      | false =>
          rw [answers] at known found
          exact ih known found

theorem fillMembers_unknown {key : String} (unknown : fields.find? (·.answersTo key) = none)
    (value : Json) (before after : List (String × Json)) (seen : List String) (r : ρ) :
    Decoder.fillMembers fields seen r (before ++ (key, value) :: after) =
      Decoder.fillMembers fields seen r (before ++ after) := by
  induction before generalizing seen r with
  | nil => simp only [List.nil_append, Decoder.fillMembers, unknown]
  | cons member rest ih => simp only [List.cons_append, Decoder.fillMembers, ih]

theorem fillMembers_known {key : String} {j j' : Json}
    (same : ∀ field, fields.find? (·.answersTo key) = some field →
      field.assign j' = field.assign j)
    (before after : List (String × Json)) (seen : List String) (r : ρ) :
    Decoder.fillMembers fields seen r (before ++ (key, j') :: after) =
      Decoder.fillMembers fields seen r (before ++ (key, j) :: after) := by
  induction before generalizing seen r with
  | nil =>
      simp only [List.nil_append, Decoder.fillMembers]
      cases found : fields.find? (·.answersTo key) with
      | none => rfl
      | some field => simp only [same field found]
  | cons member rest ih => simp only [List.cons_append, Decoder.fillMembers, ih]

theorem fillItems_place {name : String} {count : Nat} (fits : List.Forall₂ FieldFits fields forms)
    {before : List Json} {keys : List String} {form : Form}
    (here : forms[before.length]? = some (keys, form)) {j j' : Json} (gains : form.Gains j j')
    (after : List Json) (position : Nat) (r : ρ) :
    Decoder.fillItems name count position fields r (before ++ j' :: after) =
      Decoder.fillItems name count position fields r (before ++ j :: after) := by
  induction before generalizing fields forms position r with
  | nil =>
      cases fits with
      | nil => cases here
      | cons first _ =>
          cases here
          simp only [List.nil_append, Decoder.fillItems, first.assign j j' gains]
  | cons item rest ih =>
      cases fits with
      | nil => cases here
      | cons _ others =>
          simp only [List.cons_append, Decoder.fillItems]
          split
          · rfl
          · exact ih others (by simpa using here) _ _

/-- A record fits the form that has its fields, in their order. -/
theorem fits_record {name : String} {blank : ρ} (fits : List.Forall₂ FieldFits fields forms) :
    (Form.record forms).Fits (Decoder.record name fields blank) := by
  intro j j' gains
  cases gains with
  | member value unknown =>
      simp only [Decoder.record, fillMembers_unknown (find?_of_unknown fits unknown)]
  | @inMember _ before after key form inside gained known inner =>
      have same : ∀ field, fields.find? (·.answersTo key) = some field →
          field.assign gained = field.assign inside :=
        fun _ found => assign_of_fieldForm? fits known found inner
      simp only [Decoder.record, fillMembers_known same]
  | inPlace here inner =>
      simp only [Decoder.record, fillItems_place fits here inner]

end

end GameScenes.Json
