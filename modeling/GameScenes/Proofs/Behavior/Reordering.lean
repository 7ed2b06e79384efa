import GameScenes.Behavior.Index
import Mathlib.Data.List.Find
import Mathlib.Data.List.Nodup
import Mathlib.Data.String.Basic

/-!
# Catalogs in another order

What a name stands for does not depend on the order of the catalogs, nor on the order of the
behaviors in them (`lookup_reordered`): an exact name is found wherever it stands, of the names
that are equal up to the case of letters the least one is taken, and a collision is settled by the
order of precedence, of which no module declares one name twice.
-/

set_option autoImplicit false

namespace GameScenes.Behavior

/-! ## Catalogs -/

/-- That catalogs are the same up to their order and the order of the behaviors in them. -/
def Reordered (catalogs others : List Catalog) : Prop :=
  ∃ moved : List Catalog, catalogs.Perm moved ∧ moved.Forall₂
    (fun c d => c.module = d.module ∧ c.descriptors.Perm d.descriptors) others

/-- That two lookups come to the same: to one behavior, or to one fault with the same candidates,
in whichever order. -/
inductive SameAnswer : Except LookupFault Registered → Except LookupFault Registered → Prop
  | found (r : Registered) : SameAnswer (.ok r) (.ok r)
  | unknown (name : String) : SameAnswer (.error (.unknown name)) (.error (.unknown name))
  | ambiguous (name : String) {candidates others : List String} :
      candidates.Perm others →
      SameAnswer (.error (.ambiguous name candidates)) (.error (.ambiguous name others))

namespace Index

theorem registeredOf_perm {catalogs others : List Catalog} (reordered : Reordered catalogs others) :
    (registeredOf catalogs).Perm (registeredOf others) := by
  obtain ⟨moved, perm, alike⟩ := reordered
  refine (perm.flatMap_right _).trans ?_
  induction alike generalizing catalogs with
  | nil => exact List.Perm.refl _
  | @cons c d cs ds same alike ih =>
      obtain ⟨module, descriptors⟩ := same
      have first := descriptors.map fun descriptor => (⟨d.module, descriptor⟩ : Registered)
      rw [List.flatMap_cons, registeredOf, List.flatMap_cons, module]
      exact first.append (ih (List.Perm.refl cs))

/-- Behaviors of which no two have the same qualified name are all kept. -/
theorem firstOfEach_of_nodup {seen : List String} {all : List Registered}
    (fresh : ∀ r ∈ all, r.qualifiedName ∉ seen) (distinct : (all.map (·.qualifiedName)).Nodup) :
    firstOfEach seen all = all := by
  induction all generalizing seen with
  | nil => rfl
  | cons first rest ih =>
      obtain ⟨new, others⟩ := List.nodup_cons.mp distinct
      have unseen : ¬ seen.contains first.qualifiedName = true := by
        rw [List.contains_iff_mem]
        exact fresh first (List.mem_cons_self ..)
      rw [firstOfEach, if_neg unseen, ih ?_ others]
      intro r member
      rw [List.mem_cons, not_or]
      exact ⟨fun same => new (List.mem_map.mpr ⟨r, member, same⟩),
        fresh r (List.mem_cons_of_mem _ member)⟩

/-! ## Spellings -/

theorem least?_eq_min? (names : List String) : least? names = names.min? := by
  have smaller : lesser = min := by
    funext a b
    exact (min_def_lt' a b).symm
  cases names with
  | nil => rfl
  | cons first rest => rw [least?, smaller, List.min?_cons']

theorem least?_of_perm {names others : List String} (perm : names.Perm others) :
    least? names = least? others := by
  rw [least?_eq_min?, least?_eq_min?]
  ext name
  rw [List.min?_eq_some_iff, List.min?_eq_some_iff]
  simp only [perm.mem_iff]

/-- The spelling that is meant does not depend on the order of the names. -/
theorem spelling?_of_perm {names others : List String} (perm : names.Perm others)
    (name : String) : spelling? names name = spelling? others name := by
  have same : names.contains name = others.contains name := perm.contains_eq
  rw [spelling?, spelling?, same, least?_of_perm (perm.filter _)]

/-! ## Indices -/

/-- That two indices know the same behaviors, each under a name of its own, and settle collisions
by the same precedence. -/
structure Alike (index other : Index) : Prop where
  behaviors : index.behaviors.Perm other.behaviors
  distinct : (index.behaviors.map (·.qualifiedName)).Nodup
  precedence : index.precedence = other.precedence

theorem alike_ofCatalogs {catalogs others : List Catalog}
    (distinct : ((registeredOf catalogs).map (·.qualifiedName)).Nodup)
    (reordered : Reordered catalogs others) (precedence : List String) :
    Alike (ofCatalogs catalogs precedence) (ofCatalogs others precedence) := by
  have perm := registeredOf_perm reordered
  have still : ((registeredOf others).map (·.qualifiedName)).Nodup :=
    (perm.map _).nodup_iff.mp distinct
  have kept : (ofCatalogs catalogs precedence).behaviors = registeredOf catalogs :=
    firstOfEach_of_nodup (by simp) distinct
  have others_ : (ofCatalogs others precedence).behaviors = registeredOf others :=
    firstOfEach_of_nodup (by simp) still
  refine ⟨?_, ?_, rfl⟩
  · rwa [kept, others_]
  · rwa [kept]

namespace Alike

variable {index other : Index} (alike : Alike index other)

include alike

theorem eq_of_qualifiedName {r s : Registered} (here : r ∈ index.behaviors)
    (there : s ∈ index.behaviors) (same : r.qualifiedName = s.qualifiedName) : r = s :=
  List.inj_on_of_nodup_map alike.distinct here there same

theorem lookupQualified (name : String) :
    SameAnswer (index.lookupQualified name) (other.lookupQualified name) := by
  unfold Index.lookupQualified
  rw [spelling?_of_perm (alike.behaviors.map _) name]
  cases spelling? (other.behaviors.map (·.qualifiedName)) name with
  | none => exact .unknown name
  | some spelled =>
      have only : {r ∈ index.behaviors | (r.qualifiedName == spelled) = true}.Subsingleton := by
        rintro r ⟨here, own⟩ s ⟨there, same⟩
        apply alike.eq_of_qualifiedName here there
        rw [beq_iff_eq.mp own, beq_iff_eq.mp same]
      dsimp only
      rw [List.find?_eq_find?_of_perm alike.behaviors only]
      cases other.behaviors.find? (·.qualifiedName == spelled) with
      | none => exact .unknown name
      | some r => exact .found r

theorem group (simpleName : String) : (index.group simpleName).Perm (other.group simpleName) :=
  alike.behaviors.filter _

/-- In a group a module names one behavior at most. -/
theorem eq_of_module {simpleName : String} {r s : Registered} (here : r ∈ index.group simpleName)
    (there : s ∈ index.group simpleName) (same : r.module = s.module) : r = s := by
  obtain ⟨member, own⟩ := List.mem_filter.mp here
  obtain ⟨present, equal⟩ := List.mem_filter.mp there
  have names : r.descriptor.name = s.descriptor.name :=
    (beq_iff_eq.mp own).trans (beq_iff_eq.mp equal).symm
  apply alike.eq_of_qualifiedName member present
  rw [Registered.qualifiedName, Registered.qualifiedName, same, names]

theorem settle? (simpleName : String) :
    index.settle? (index.group simpleName) = other.settle? (other.group simpleName) := by
  have perm := alike.group simpleName
  have preferred : index.precedence.findSome? (fun module =>
        (index.group simpleName).find? (·.module == module)) =
      other.precedence.findSome? fun module =>
        (other.group simpleName).find? (·.module == module) := by
    rw [alike.precedence]
    congr 1
    funext module
    apply List.find?_eq_find?_of_perm perm
    rintro r ⟨here, own⟩ s ⟨there, same⟩
    apply alike.eq_of_module here there
    rw [beq_iff_eq.mp own, beq_iff_eq.mp same]
  generalize index.group simpleName = xs at perm preferred ⊢
  generalize other.group simpleName = ys at perm preferred ⊢
  -- only a behavior that is alone needs no precedence
  match xs, ys, perm with
  | [r], ys, perm =>
      cases List.singleton_perm.mp perm
      rfl
  | [], ys, perm =>
      rw [List.nil_perm.mp perm] at preferred ⊢
      exact preferred
  | r :: s :: xs, [], perm => cases perm.eq_nil
  | r :: s :: xs, [t], perm => cases List.perm_singleton.mp perm
  | r :: s :: xs, t :: u :: ys, perm => exact preferred

theorem lookupSimple (name : String) :
    SameAnswer (index.lookupSimple name) (other.lookupSimple name) := by
  unfold Index.lookupSimple
  rw [spelling?_of_perm (alike.behaviors.map _) name]
  cases spelling? (other.behaviors.map (·.simpleName)) name with
  | none => exact .unknown name
  | some spelled =>
      dsimp only
      rw [alike.settle? spelled]
      cases other.settle? (other.group spelled) with
      | none => exact .ambiguous name ((alike.group spelled).map _)
      | some r => exact .found r

end Alike

/-- A lookup comes to the same in whichever order the catalogs list the behaviors. -/
theorem lookup_reordered {catalogs others : List Catalog}
    (distinct : ((registeredOf catalogs).map (·.qualifiedName)).Nodup)
    (reordered : Reordered catalogs others) (precedence : List String) (raw : String) :
    SameAnswer ((ofCatalogs catalogs precedence).lookup raw)
      ((ofCatalogs others precedence).lookup raw) := by
  have alike := alike_ofCatalogs distinct reordered precedence
  unfold lookup
  dsimp only
  split
  · exact alike.lookupQualified _
  · exact alike.lookupSimple _

/-- Two modules that declare one name, and a further behavior. -/
def collidingCatalogs : List Catalog :=
  [⟨"core", [describe "Mover" acceptAll [], describe "Spinner" acceptAll []]⟩,
    ⟨"game", [describe "Mover" refuseNegative []]⟩]

/-- The same modules from the last to the first, with their behaviors from the last to the first. -/
def collidingCatalogsReversed : List Catalog :=
  [⟨"game", [describe "Mover" refuseNegative []]⟩,
    ⟨"core", [describe "Spinner" acceptAll [], describe "Mover" acceptAll []]⟩]

/-- Without precedence the candidates for a name are listed in another order, and they are the
same. -/
theorem lookup_reordered_movers :
    ((registeredOf collidingCatalogs).map (·.qualifiedName)).Nodup ∧
      Reordered collidingCatalogs collidingCatalogsReversed ∧
      (ofCatalogs collidingCatalogs []).lookup " mover" =
        .error (.ambiguous "mover" ["core::Mover", "game::Mover"]) ∧
      (ofCatalogs collidingCatalogsReversed []).lookup " mover" =
        .error (.ambiguous "mover" ["game::Mover", "core::Mover"]) ∧
      SameAnswer ((ofCatalogs collidingCatalogs []).lookup " mover")
        ((ofCatalogs collidingCatalogsReversed []).lookup " mover") := by
  have distinct : ((registeredOf collidingCatalogs).map (·.qualifiedName)).Nodup := by decide
  have reordered : Reordered collidingCatalogs collidingCatalogsReversed := by
    refine ⟨collidingCatalogs.reverse, (List.reverse_perm _).symm, ?_⟩
    exact .cons ⟨rfl, .refl _⟩ (.cons ⟨rfl, .swap ..⟩ .nil)
  exact ⟨distinct, reordered, by rfl, by rfl, lookup_reordered distinct reordered [] " mover"⟩

end Index

end GameScenes.Behavior
