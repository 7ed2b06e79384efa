import GameScenes.Proofs.Behavior.Conforming
import GameScenes.Proofs.Behavior.Reordering
import GameScenes.Proofs.Text.Bytes
import GameScenes.Proofs.Text.Trimming

/-!
# What a name stands for

Of behaviors with one qualified name the first is registered.  Such a behavior is found by its
qualified name; by a simple name the only behavior of that name is found, or of several the one
that comes first in the order of precedence.  A name that is no registered name stands for what
the least registered name stands for that is equal to it up to the case of letters, and it is
unknown only if there is none (`lookup_settles`).
-/

set_option autoImplicit false

namespace GameScenes.Behavior

/-- That a behavior is registered: it is the first of its qualified name. -/
def Declared (catalogs : List Catalog) (r : Registered) : Prop :=
  (Index.registeredOf catalogs).find? (·.qualifiedName == r.qualifiedName) = some r

/-- What a simple name comes to that some behaviors have. -/
inductive Meant (catalogs : List Catalog) (precedence : List String) (name : String) :
    Except LookupFault Registered → Prop
  | only (r : Registered) :
      Declared catalogs r → r.simpleName = name →
      (∀ s, Declared catalogs s → s.simpleName = name → s = r) →
      Meant catalogs precedence name (.ok r)
  | preferred (r : Registered) (before after : List String) :
      Declared catalogs r → r.simpleName = name →
      precedence = before ++ r.module :: after →
      (∀ s, Declared catalogs s → s.simpleName = name → s.module ∉ before) →
      Meant catalogs precedence name (.ok r)
  | undecided (r s : Registered) (candidates : List String) :
      Declared catalogs r → r.simpleName = name →
      Declared catalogs s → s.simpleName = name → r ≠ s →
      (∀ t, Declared catalogs t → t.simpleName = name → t.module ∉ precedence) →
      candidates.Nodup →
      (∀ q, q ∈ candidates ↔
        ∃ t, Declared catalogs t ∧ t.simpleName = name ∧ t.qualifiedName = q) →
      Meant catalogs precedence name (.error (.ambiguous name candidates))

/-- The same fault of another name. -/
def LookupFault.about (name : String) : LookupFault → LookupFault
  | unknown _ => unknown name
  | ambiguous _ candidates => ambiguous name candidates

/-- The name of a behavior that a name is compared with. -/
def Registered.nameLike (r : Registered) (name : String) : String :=
  if Text.mentions name "::" then r.qualifiedName else r.simpleName

/-- That a text is, by its bytes, the least registered name that is equal to a name up to the case of
letters. -/
structure LeastAlike (catalogs : List Catalog) (name least : String) : Prop where
  registered : ∃ r, Declared catalogs r ∧ r.nameLike name = least
  alike : Text.sameLetters least name = true
  least : ∀ r, Declared catalogs r → Text.sameLetters (r.nameLike name) name = true →
    Text.bytes least ≤ Text.bytes (r.nameLike name)

namespace Index

/-! ## Registered behaviors -/

theorem mem_firstOfEach_iff {seen : List String} {all : List Registered} {r : Registered} :
    r ∈ firstOfEach seen all ↔
      r.qualifiedName ∉ seen ∧
        all.find? (·.qualifiedName == r.qualifiedName) = some r := by
  induction all generalizing seen with
  | nil => simp [firstOfEach]
  | cons first rest ih =>
      rw [firstOfEach, List.find?_cons]
      by_cases own : first.qualifiedName = r.qualifiedName
      · have found : (first.qualifiedName == r.qualifiedName) = true := beq_iff_eq.mpr own
        rw [found]
        split
        next known =>
          rw [List.contains_iff_mem, own] at known
          rw [ih]
          simp [known]
        next fresh =>
          rw [List.contains_iff_mem, own] at fresh
          rw [List.mem_cons, ih, own]
          simp [fresh, eq_comm]
      · have other : (first.qualifiedName == r.qualifiedName) = false :=
          beq_eq_false_iff_ne.mpr own
        rw [other]
        have apart : r ≠ first := fun same => own (same ▸ rfl)
        split
        · exact ih
        · rw [List.mem_cons, ih, List.mem_cons, not_or]
          simp [apart, Ne.symm own]

variable {catalogs : List Catalog} {precedence : List String}

theorem mem_behaviors_iff {r : Registered} :
    r ∈ (ofCatalogs catalogs precedence).behaviors ↔ Declared catalogs r := by
  rw [ofCatalogs, mem_firstOfEach_iff, Declared]
  simp

theorem eq_of_declared {r s : Registered} (first : Declared catalogs r)
    (second : Declared catalogs s) (same : r.qualifiedName = s.qualifiedName) : r = s := by
  rw [Declared, same, second] at first
  exact (Option.some.inj first).symm

theorem mem_names_iff {own : Registered → String} {name : String} :
    name ∈ (ofCatalogs catalogs precedence).behaviors.map own ↔
      ∃ r, Declared catalogs r ∧ own r = name := by
  simp only [List.mem_map, mem_behaviors_iff]

/-! ## Spellings -/

theorem spelling?_of_mem {names : List String} {name : String} (exact_ : name ∈ names) :
    spelling? names name = some name := by
  rw [spelling?, if_pos (List.contains_iff_mem.mpr exact_)]

/-- The least of the names that are equal up to the case of letters. -/
theorem spelling?_of_least {names : List String} {name least : String} (strange : name ∉ names)
    (member : least ∈ names) (alike : Text.sameLetters least name = true)
    (first : ∀ other ∈ names, Text.sameLetters other name = true → least ≤ other) :
    spelling? names name = some least := by
  rw [spelling?, if_neg (mt List.contains_iff_mem.mp strange), least?_eq_min?,
    List.min?_eq_some_iff]
  refine ⟨List.mem_filter.mpr ⟨member, alike⟩, ?_⟩
  intro other kept
  obtain ⟨inside, same⟩ := List.mem_filter.mp kept
  exact first other inside same

theorem spelling?_eq_none_iff {names : List String} {name : String} :
    spelling? names name = none ↔ ∀ other ∈ names, Text.sameLetters other name = false := by
  rw [spelling?, least?_eq_min?]
  split
  next exact_ =>
    rw [List.contains_iff_mem] at exact_
    refine ⟨fun missing => (by cases missing), fun strange => ?_⟩
    have different := strange name exact_
    rw [Text.sameLetters, beq_self_eq_true] at different
    cases different
  · rw [List.min?_eq_none_iff, List.filter_eq_nil_iff]
    simp only [Bool.not_eq_true]

theorem mem_of_spelling? {names : List String} {name spelled : String}
    (found : spelling? names name = some spelled) : spelled ∈ names := by
  rw [spelling?, least?_eq_min?] at found
  split at found
  next exact_ =>
    cases found
    exact List.contains_iff_mem.mp exact_
  · exact List.mem_of_mem_filter (List.min?_mem found)

/-! ## Simple names -/

theorem mem_group_iff {name : String} {r : Registered} :
    r ∈ (ofCatalogs catalogs precedence).group name ↔
      Declared catalogs r ∧ r.simpleName = name := by
  rw [group, List.mem_filter, mem_behaviors_iff, beq_iff_eq]

theorem group_nodup (name : String) :
    (((ofCatalogs catalogs precedence).group name).map (·.qualifiedName)).Nodup :=
  (firstOfEach_distinct [] (registeredOf catalogs)).2.sublist (List.filter_sublist.map _)

/-- Of a group the behavior is taken whose module stands first in the order of precedence. -/
theorem meant_of_found {name module : String} {r : Registered}
    {before after : List String} (order : precedence = before ++ module :: after)
    (found : ((ofCatalogs catalogs precedence).group name).find? (·.module == module) = some r)
    (passed : ∀ earlier ∈ before,
      ((ofCatalogs catalogs precedence).group name).find? (·.module == earlier) = none) :
    Meant catalogs precedence name (.ok r) := by
  obtain ⟨declared, named⟩ := mem_group_iff.mp (List.mem_of_find?_eq_some found)
  have own : r.module = module := beq_iff_eq.mp (List.find?_some found :)
  subst own
  refine .preferred r before after declared named order ?_
  intro s other same listed
  have absent := List.find?_eq_none.mp (passed s.module listed) s (mem_group_iff.mpr ⟨other, same⟩)
  simp at absent

theorem meant_of_settle? {name : String} {r : Registered}
    (settled : (ofCatalogs catalogs precedence).settle?
      ((ofCatalogs catalogs precedence).group name) = some r) :
    Meant catalogs precedence name (.ok r) := by
  unfold settle? at settled
  split at settled
  next single alone =>
    cases settled
    have only : ∀ s, s ∈ (ofCatalogs catalogs precedence).group name ↔
        Declared catalogs s ∧ s.simpleName = name := fun _ => mem_group_iff
    rw [alone] at only
    simp only [List.mem_singleton] at only
    obtain ⟨declared, named⟩ := (only r).mp rfl
    exact .only r declared named fun s other same => (only s).mpr ⟨other, same⟩
  · obtain ⟨before, module, after, order, found, passed⟩ :=
      List.findSome?_eq_some_iff.mp settled
    exact meant_of_found order found passed

theorem meant_of_unsettled {name : String} {r : Registered} (declared : Declared catalogs r)
    (named : r.simpleName = name)
    (unsettled : (ofCatalogs catalogs precedence).settle?
      ((ofCatalogs catalogs precedence).group name) = none) :
    Meant catalogs precedence name (.error (.ambiguous name
      (((ofCatalogs catalogs precedence).group name).map (·.qualifiedName)))) := by
  have inside : r ∈ (ofCatalogs catalogs precedence).group name :=
    mem_group_iff.mpr ⟨declared, named⟩
  have distinct := @group_nodup catalogs precedence name
  have members : ∀ s, s ∈ (ofCatalogs catalogs precedence).group name ↔
      Declared catalogs s ∧ s.simpleName = name := fun _ => mem_group_iff
  generalize (ofCatalogs catalogs precedence).group name = several at *
  unfold settle? at unsettled
  split at unsettled
  · cases unsettled
  next crowd =>
    have absent := List.findSome?_eq_none_iff.mp unsettled
    obtain ⟨s, other, apart⟩ : ∃ s ∈ several, r ≠ s := by
      match several with
      | [] => simp at inside
      | [single] => exact absurd rfl (crowd single)
      | s :: t :: rest =>
          have different : s ≠ t := by
            rintro rfl
            simp at distinct
          by_cases first : r = s
          · exact ⟨t, by simp, first ▸ different⟩
          · exact ⟨s, by simp, first⟩
    obtain ⟨second, same⟩ := (members s).mp other
    refine .undecided r s _ declared named second same apart ?_ distinct ?_
    · intro t present own listed
      have missing := List.find?_eq_none.mp (absent t.module listed) t
        ((members t).mpr ⟨present, own⟩)
      simp at missing
    · intro q
      simp only [List.mem_map, members, and_assoc]

theorem lookupSimple_meant {r : Registered} (declared : Declared catalogs r) :
    Meant catalogs precedence r.simpleName
      ((ofCatalogs catalogs precedence).lookupSimple r.simpleName) := by
  unfold lookupSimple
  rw [spelling?_of_mem (mem_names_iff.mpr ⟨r, declared, rfl⟩)]
  dsimp only
  cases settled : (ofCatalogs catalogs precedence).settle?
      ((ofCatalogs catalogs precedence).group r.simpleName) with
  | none => exact meant_of_unsettled declared rfl settled
  | some s => exact meant_of_settle? settled

theorem lookupSimple_respelled {name : String} {r : Registered} (declared : Declared catalogs r)
    (spelling : spelling? ((ofCatalogs catalogs precedence).behaviors.map (·.simpleName)) name =
      some r.simpleName) :
    (ofCatalogs catalogs precedence).lookupSimple name =
      ((ofCatalogs catalogs precedence).lookupSimple r.simpleName).mapError
        (LookupFault.about name) := by
  unfold lookupSimple
  rw [spelling, spelling?_of_mem (mem_names_iff.mpr ⟨r, declared, rfl⟩)]
  dsimp only
  cases (ofCatalogs catalogs precedence).settle?
      ((ofCatalogs catalogs precedence).group r.simpleName) with
  | none => rfl
  | some s => rfl

theorem lookupSimple_unknown_iff {name : String} :
    (ofCatalogs catalogs precedence).lookupSimple name = .error (.unknown name) ↔
      ∀ r, Declared catalogs r → Text.sameLetters r.simpleName name = false := by
  have named : (∀ r, Declared catalogs r → Text.sameLetters r.simpleName name = false) ↔
      spelling? ((ofCatalogs catalogs precedence).behaviors.map (·.simpleName)) name = none := by
    simp only [spelling?_eq_none_iff, mem_names_iff, forall_exists_index, and_imp,
      forall_apply_eq_imp_iff₂]
  rw [named]
  unfold lookupSimple
  cases spelling? ((ofCatalogs catalogs precedence).behaviors.map (·.simpleName)) name with
  | none => simp
  | some spelled =>
      dsimp only
      cases (ofCatalogs catalogs precedence).settle?
          ((ofCatalogs catalogs precedence).group spelled) <;> simp

/-! ## Qualified names -/

theorem mentions_qualifiedName (r : Registered) : Text.mentions r.qualifiedName "::" = true := by
  rw [Registered.qualifiedName, Text.mentions, String.toList_append, String.toList_append,
    List.append_assoc]
  exact Text.occursIn_append _ _ _

theorem find?_qualifiedName {r : Registered} (declared : Declared catalogs r) :
    (ofCatalogs catalogs precedence).behaviors.find? (·.qualifiedName == r.qualifiedName) =
      some r := by
  cases found : (ofCatalogs catalogs precedence).behaviors.find?
      (·.qualifiedName == r.qualifiedName) with
  | none =>
      have absent := List.find?_eq_none.mp found r (mem_behaviors_iff.mpr declared)
      simp at absent
  | some s =>
      have own : s.qualifiedName = r.qualifiedName := beq_iff_eq.mp (List.find?_some found :)
      have other := mem_behaviors_iff.mp (List.mem_of_find?_eq_some found)
      rw [eq_of_declared other declared own]

theorem lookupQualified_of_spelling {name : String} {r : Registered}
    (declared : Declared catalogs r)
    (spelling : spelling? ((ofCatalogs catalogs precedence).behaviors.map (·.qualifiedName)) name =
      some r.qualifiedName) :
    (ofCatalogs catalogs precedence).lookupQualified name = .ok r := by
  unfold lookupQualified
  rw [spelling]
  dsimp only
  rw [find?_qualifiedName declared]

theorem lookupQualified_unknown_iff {name : String} :
    (ofCatalogs catalogs precedence).lookupQualified name = .error (.unknown name) ↔
      ∀ r, Declared catalogs r → Text.sameLetters r.qualifiedName name = false := by
  have named : (∀ r, Declared catalogs r → Text.sameLetters r.qualifiedName name = false) ↔
      spelling? ((ofCatalogs catalogs precedence).behaviors.map (·.qualifiedName)) name = none := by
    simp only [spelling?_eq_none_iff, mem_names_iff, forall_exists_index, and_imp,
      forall_apply_eq_imp_iff₂]
  rw [named]
  constructor
  · intro unknown
    by_contra spelled
    obtain ⟨spelling, found⟩ := Option.ne_none_iff_exists'.mp spelled
    obtain ⟨r, declared, rfl⟩ := mem_names_iff.mp (mem_of_spelling? found)
    rw [lookupQualified_of_spelling declared found] at unknown
    cases unknown
  · intro missing
    unfold lookupQualified
    rw [missing]

/-! ## Lookups -/

theorem lookup_qualifiedName {r : Registered} (declared : Declared catalogs r)
    (trimmed : Text.trim r.qualifiedName = r.qualifiedName) :
    (ofCatalogs catalogs precedence).lookup r.qualifiedName = .ok r := by
  unfold lookup
  dsimp only
  rw [trimmed, if_pos (mentions_qualifiedName r)]
  exact lookupQualified_of_spelling declared
    (spelling?_of_mem (mem_names_iff.mpr ⟨r, declared, rfl⟩))

theorem lookup_eq (raw : String) (index : Index) :
    index.lookup raw =
      if Text.mentions (Text.trim raw) "::" then index.lookupQualified (Text.trim raw)
      else index.lookupSimple (Text.trim raw) := rfl

theorem lookup_of_simple {name : String} (trimmed : Text.trim name = name)
    (simple : Text.mentions name "::" = false) (index : Index) :
    index.lookup name = index.lookupSimple name := by
  unfold lookup
  dsimp only
  rw [trimmed, if_neg (by simp [simple])]

theorem exists_leastAlike {name : String}
    (alike : ∃ r, Declared catalogs r ∧ Text.sameLetters (r.nameLike name) name = true) :
    ∃ least, LeastAlike catalogs name least := by
  obtain ⟨r, declared, same⟩ := alike
  have names : ∀ other, other ∈ (ofCatalogs catalogs []).behaviors.map (fun r => r.nameLike name) ↔
      ∃ r, Declared catalogs r ∧ r.nameLike name = other := fun _ => mem_names_iff
  generalize (ofCatalogs catalogs []).behaviors.map (fun r => r.nameLike name) = all at names
  have inside : r.nameLike name ∈ all.filter fun other => Text.sameLetters other name :=
    List.mem_filter.mpr ⟨(names _).mpr ⟨r, declared, rfl⟩, same⟩
  cases found : (all.filter fun other => Text.sameLetters other name).min? with
  | none =>
      rw [List.min?_eq_none_iff] at found
      rw [found] at inside
      cases inside
  | some least =>
      obtain ⟨kept, first⟩ := List.min?_eq_some_iff.mp found
      obtain ⟨listed, own⟩ := List.mem_filter.mp kept
      refine ⟨least, (names least).mp listed, own, ?_⟩
      intro s other also_
      apply Text.bytes_le_iff.mpr
      exact first _ (List.mem_filter.mpr ⟨(names _).mpr ⟨s, other, rfl⟩, also_⟩)

/-- A name that is no registered name stands for what the least name stands for that is equal to it
up to the case of letters. -/
theorem lookup_respelled {raw name least : String} (trimmed : name = Text.trim raw)
    (strange : ∀ r, Declared catalogs r → r.nameLike name ≠ name)
    (spelled : LeastAlike catalogs name least) :
    (ofCatalogs catalogs precedence).lookup raw =
      ((ofCatalogs catalogs precedence).lookup least).mapError (LookupFault.about name) := by
  obtain ⟨⟨r, declared, rfl⟩, alike, first⟩ := spelled
  have still := Text.trim_of_sameLetters alike (trimmed ▸ Text.trim_trim raw)
  have colons := Text.mentions_colons_of_sameLetters alike
  have spelling : spelling?
      ((ofCatalogs catalogs precedence).behaviors.map (·.nameLike name)) name =
        some (r.nameLike name) := by
    apply spelling?_of_least
    · intro known
      obtain ⟨s, other, same⟩ := mem_names_iff.mp known
      exact strange s other same
    · exact mem_names_iff.mpr ⟨r, declared, rfl⟩
    · exact alike
    · intro other listed same
      obtain ⟨s, present, rfl⟩ := mem_names_iff.mp listed
      exact Text.bytes_le_iff.mp (first s present same)
  rw [lookup_eq raw, ← trimmed]
  by_cases qualified : Text.mentions name "::" = true
  · simp only [Registered.nameLike, if_pos qualified] at spelling still ⊢
    rw [lookup_qualifiedName declared still, lookupQualified_of_spelling declared spelling]
    rfl
  · simp only [Registered.nameLike, if_neg qualified] at spelling still colons ⊢
    rw [Bool.not_eq_true] at qualified
    rw [lookup_of_simple still (colons.trans qualified), lookupSimple_respelled declared spelling]

theorem lookup_unknown_iff {raw name : String} (trimmed : name = Text.trim raw) :
    (ofCatalogs catalogs precedence).lookup raw = .error (.unknown name) ↔
      ∀ r, Declared catalogs r → Text.sameLetters (r.nameLike name) name = false := by
  rw [lookup_eq raw, ← trimmed]
  unfold Registered.nameLike
  split
  · exact lookupQualified_unknown_iff
  · exact lookupSimple_unknown_iff

/-- A registered behavior is found by its qualified name.  A simple name that behaviors have stands
for the only one of them, for the one that comes first in the order of precedence, or for none,
with all of them as candidates.  Any other name stands for what the least registered name stands
for that is equal to it up to the case of letters, and is unknown only if there is none. -/
theorem lookup_settles (catalogs : List Catalog) (precedence : List String) :
    (∀ r, Declared catalogs r → Text.trim r.qualifiedName = r.qualifiedName →
        (ofCatalogs catalogs precedence).lookup r.qualifiedName = .ok r) ∧
      (∀ r, Declared catalogs r → Text.trim r.simpleName = r.simpleName →
        Text.mentions r.simpleName "::" = false →
        Meant catalogs precedence r.simpleName
          ((ofCatalogs catalogs precedence).lookup r.simpleName)) ∧
      (∀ raw name, name = Text.trim raw →
        (∀ r, Declared catalogs r → r.nameLike name ≠ name) →
        (∃ r, Declared catalogs r ∧ Text.sameLetters (r.nameLike name) name = true) →
        ∃ least, LeastAlike catalogs name least ∧
          (ofCatalogs catalogs precedence).lookup raw =
            ((ofCatalogs catalogs precedence).lookup least).mapError
              (LookupFault.about name)) ∧
      (∀ raw name, name = Text.trim raw →
        ((ofCatalogs catalogs precedence).lookup raw = .error (.unknown name) ↔
          ∀ r, Declared catalogs r → Text.sameLetters (r.nameLike name) name = false)) := by
  refine ⟨fun r declared trimmed => lookup_qualifiedName declared trimmed, ?_, ?_, ?_⟩
  · intro r declared trimmed simple
    rw [lookup_of_simple trimmed simple]
    exact lookupSimple_meant declared
  · intro raw name trimmed strange alike
    obtain ⟨least, spelled⟩ := exists_leastAlike alike
    exact ⟨least, spelled, lookup_respelled trimmed strange spelled⟩
  · intro raw name trimmed
    exact lookup_unknown_iff trimmed

/-- Two modules that declare one name in two spellings, one of them twice. -/
def crowdedCatalogs : List Catalog :=
  [⟨"game", [describe "mover" acceptAll [], describe "Mover" acceptAll []]⟩,
    ⟨"core", [describe "Mover" refuseNegative [], describe "Mover" acceptAll []]⟩]

theorem forall_declared_iff {P : Registered → Prop} :
    (∀ r, Declared catalogs r → P r) ↔ ∀ r ∈ (ofCatalogs catalogs []).behaviors, P r := by
  simp only [mem_behaviors_iff]

/-- The core's first `Mover` is found by its qualified name and is preferred, and `MOVER` stands for
what `Mover` stands for, which comes before `mover`. -/
theorem lookup_settles_crowded :
    (ofCatalogs crowdedCatalogs ["core"]).lookup "core::Mover" =
        .ok ⟨"core", describe "Mover" refuseNegative []⟩ ∧
      Meant crowdedCatalogs ["core"] "Mover"
        ((ofCatalogs crowdedCatalogs ["core"]).lookup "Mover") ∧
      (∃ least, LeastAlike crowdedCatalogs "MOVER" least ∧
        (ofCatalogs crowdedCatalogs ["core"]).lookup " MOVER" =
          ((ofCatalogs crowdedCatalogs ["core"]).lookup least).mapError
            (LookupFault.about "MOVER")) ∧
      (ofCatalogs crowdedCatalogs ["core"]).lookup "Jumper" = .error (.unknown "Jumper") := by
  obtain ⟨qualified, simple, respelled, unknown⟩ := lookup_settles crowdedCatalogs ["core"]
  have declared : Declared crowdedCatalogs ⟨"core", describe "Mover" refuseNegative []⟩ := by rfl
  have strange : ∀ r, Declared crowdedCatalogs r → r.nameLike "MOVER" ≠ "MOVER" := by
    rw [forall_declared_iff]
    decide
  have missing : ∀ r, Declared crowdedCatalogs r →
      Text.sameLetters (r.nameLike "Jumper") "Jumper" = false := by
    rw [forall_declared_iff]
    decide
  have found := qualified _ declared (by decide)
  have meant := simple _ declared (by decide) (by decide)
  have least := respelled " MOVER" "MOVER" (by decide) strange ⟨_, declared, by decide⟩
  exact ⟨found, meant, least, (unknown "Jumper" "Jumper" (by decide)).mpr missing⟩

end Index

end GameScenes.Behavior
