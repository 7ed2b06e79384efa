import GameScenes.Proofs.Project.Layers
import GameScenes.Proofs.Project.SortingLayers
import Mathlib.Logic.Relation

/-!
# Entering names into the tables

A name that is entered into the tables is there from then on, unless there is no room for it.
Whatever is entered, the tables only grow: what they held keeps its place (`Tables.Extends.of_run`), and
what was entered once is not entered again (`Ledger.enterAll_again`).
-/

set_option autoImplicit false

namespace GameScenes

open Relation (ReflTransGen)

/-! ## Growing lists -/

/-- That a list got further elements with keys of their own. -/
def GrowsBy {α β : Type} (key : α → β) (before after : List α) : Prop :=
  ∃ new, after = before ++ new ∧ (new.map key).Nodup ∧ ∀ a ∈ new, key a ∉ before.map key

namespace GrowsBy

variable {α β : Type} {key : α → β} {xs ys zs : List α}

theorem refl (key : α → β) (xs : List α) : GrowsBy key xs xs := ⟨[], by simp⟩

theorem single {a : α} (new : key a ∉ xs.map key) : GrowsBy key xs (xs ++ [a]) := by
  refine ⟨[a], rfl, by simp, ?_⟩
  intro b member
  rw [List.mem_singleton.mp member]
  exact new

theorem trans (first : GrowsBy key xs ys) (second : GrowsBy key ys zs) : GrowsBy key xs zs := by
  obtain ⟨early, rfl, distinct, apart⟩ := first
  obtain ⟨late, rfl, others, further⟩ := second
  refine ⟨early ++ late, List.append_assoc .., ?_, ?_⟩
  · rw [List.map_append, List.nodup_append']
    refine ⟨distinct, others, ?_⟩
    intro k there again
    obtain ⟨a, member, rfl⟩ := List.mem_map.mp again
    apply further a member
    rw [List.map_append]
    exact List.mem_append_right _ there
  · intro a member
    rcases List.mem_append.mp member with old | new
    · exact apart a old
    · intro known
      apply further a new
      rw [List.map_append]
      exact List.mem_append_left _ known

end GrowsBy

namespace Tables

/-! ## What a single name adds -/

/-- That tables got one name more: a tag at the end, a layer in the first slot for documents that is
free, or a sorting layer at the end with an identifier of its own. -/
inductive Adds (before : Tables) : Tables → Prop where
  | tag {name : String} (new : name ∉ before.tags.tags) :
      Adds before { before with tags := ⟨before.tags.tags ++ [name]⟩ }
  | layer {name : String} {slot : Nat} (new : some name ∉ before.layers.slots)
      (own : firstUserLayer ≤ slot) (free : before.layers.slots[slot]? = some none)
      (first : ∀ i, firstUserLayer ≤ i → i < slot →
        ∃ other, before.layers.slots[i]? = some (some other)) :
      Adds before { before with layers := before.layers.put slot name }
  | sortingLayer {name : String} {id : UInt32}
      (new : name ∉ before.sortingLayers.layers.map (·.name)) (nonzero : id ≠ 0)
      (fresh : id ∉ before.sortingLayers.layers.map (·.uniqueId)) :
      Adds before
        { before with sortingLayers := ⟨before.sortingLayers.layers ++ [⟨name, id⟩]⟩ }

/-- That tables hold all that other tables held, where it was. -/
structure Extends (before after : Tables) : Prop where
  tags : GrowsBy id before.tags.tags after.tags.tags
  named : ∀ (i : Nat) (name : String), before.layers.slots[i]? = some (some name) →
    after.layers.slots[i]? = some (some name)
  reserved : ∀ i < firstUserLayer, after.layers.slots[i]? = before.layers.slots[i]?
  slots : after.layers.slots.length = layerSlotCount
  sortingNames : GrowsBy (·.name) before.sortingLayers.layers after.sortingLayers.layers
  sortingIds : GrowsBy (·.uniqueId) before.sortingLayers.layers after.sortingLayers.layers
  nonzero : ∀ layer ∈ after.sortingLayers.layers, layer.uniqueId = 0 →
    layer ∈ before.sortingLayers.layers

variable {a b c : Tables}

namespace Extends

theorem refl (tables : Tables) : Extends tables tables where
  tags := .refl ..
  named _ _ held := held
  reserved _ _ := rfl
  slots := tables.layers.size_eq
  sortingNames := .refl ..
  sortingIds := .refl ..
  nonzero _ member _ := member

theorem trans (first : Extends a b) (second : Extends b c) : Extends a c where
  tags := first.tags.trans second.tags
  named i name held := second.named i name (first.named i name held)
  reserved i low := (second.reserved i low).trans (first.reserved i low)
  slots := second.slots
  sortingNames := first.sortingNames.trans second.sortingNames
  sortingIds := first.sortingIds.trans second.sortingIds
  nonzero layer member zero := first.nonzero layer (second.nonzero layer member zero) zero

theorem of_adds (adds : Adds a b) : Extends a b := by
  have same := Extends.refl a
  cases adds with
  | tag new => exact { same with tags := .single (by simpa using new) }
  | @layer name slot new own free first =>
      refine { same with named := ?_, reserved := ?_, slots := ?_ }
      · intro i other held
        have apart : slot ≠ i := by
          rintro rfl
          rw [free] at held
          cases held
        exact (List.getElem?_set_ne apart).trans held
      · intro i low
        exact List.getElem?_set_ne (by omega)
      · exact (a.layers.put slot name).size_eq
  | @sortingLayer name id new nonzero fresh =>
      refine { same with sortingNames := .single new, sortingIds := .single fresh, nonzero := ?_ }
      intro layer member zero
      rcases List.mem_append.mp member with old | added
      · exact old
      · rw [List.mem_singleton.mp added] at zero
        exact absurd zero nonzero

theorem of_run (run : ReflTransGen Adds a b) : Extends a b := by
  induction run with
  | refl => exact .refl a
  | tail _ step ih => exact ih.trans (.of_adds step)

end Extends

/-! ## What is there already -/

/-- A name for one of the tables. -/
inductive Entry where
  | tag (name : String)
  | layer (name : String)
  | sortingLayer (name : String)

/-- That entering a name changes nothing: it is there, or there is no room for it. -/
def Absorbs (tables : Tables) : Entry → Prop
  | .tag name => name ∈ tables.tags.tags
  | .layer name => tables.layers.Absorbs name
  | .sortingLayer name =>
      tables.sortingLayers.has name = true ∨ ∀ id, tables.sortingLayers.isFree id = false

end Tables

/-! ## Entering -/

/-- The tables of a run with the draws that it goes on with. -/
structure Ledger where
  tables : Tables
  draws : Draws

namespace Ledger

open Tables (Adds Entry Extends)

def enter (ledger : Ledger) : Entry → Ledger
  | .tag name =>
      { ledger with tables :=
        { ledger.tables with tags := (ledger.tables.tags.register name).1 } }
  | .layer name =>
      { ledger with tables :=
        { ledger.tables with layers := (ledger.tables.layers.register name).2 } }
  | .sortingLayer name =>
      let registered := ledger.tables.sortingLayers.register ledger.draws name
      ⟨{ ledger.tables with sortingLayers := registered.1 }, registered.2⟩

def enterAll (ledger : Ledger) (entries : List Entry) : Ledger := entries.foldl enter ledger

@[simp] theorem enterAll_nil (ledger : Ledger) : ledger.enterAll [] = ledger := rfl

@[simp] theorem enterAll_cons (ledger : Ledger) (entry : Entry) (rest : List Entry) :
    ledger.enterAll (entry :: rest) = (ledger.enter entry).enterAll rest := rfl

@[simp] theorem enterAll_append (ledger : Ledger) (entries others : List Entry) :
    ledger.enterAll (entries ++ others) = (ledger.enterAll entries).enterAll others :=
  List.foldl_append

variable {ledger : Ledger} {entry other : Entry} {entries : List Entry}

/-- Entering a name adds it, or leaves the tables and the draws as they are. -/
theorem enter_cases (ledger : Ledger) (entry : Entry) :
    ledger.enter entry = ledger ∨ Adds ledger.tables (ledger.enter entry).tables := by
  cases entry with
  | tag name =>
      by_cases known : ledger.tables.tags.tags.contains name = true
      · refine .inl ?_
        simp only [enter, TagTable.register, if_pos known]
      · refine .inr ?_
        simp only [enter, TagTable.register, if_neg known]
        exact .tag (by simpa using known)
  | layer name =>
      simp only [enter, LayerTable.register]
      cases found : ledger.tables.layers.indexOf? name with
      | some index => exact .inl rfl
      | none =>
          dsimp only
          cases free : ledger.tables.layers.freeSlot? with
          | none => exact .inl rfl
          | some slot =>
              obtain ⟨own, first⟩ := LayerTable.named_of_freeSlot? free
              exact .inr (.layer ((LayerTable.indexOf?_eq_none_iff _ name).mp found) own
                (LayerTable.getElem?_of_freeSlot? free) first)
  | sortingLayer name =>
      rcases ledger.tables.sortingLayers.register_cases ledger.draws name with
        kept | ⟨id, later, missing, free, added⟩
      · refine .inl ?_
        simp only [enter, kept]
      · obtain ⟨nonzero, fresh⟩ := SortingLayerTable.isFree_iff.mp free
        refine .inr ?_
        simp only [enter, added]
        refine .sortingLayer ?_ nonzero (by simpa using fresh)
        rw [← SortingLayerTable.has_iff, missing]
        exact Bool.false_ne_true

theorem enter_of_absorbs (absorbs : ledger.tables.Absorbs entry) :
    ledger.enter entry = ledger := by
  cases entry with
  | tag name =>
      have known : ledger.tables.tags.tags.contains name = true := by
        rw [List.contains_iff_mem]
        exact absorbs
      simp only [enter, TagTable.register, if_pos known]
  | layer name =>
      have same : (ledger.tables.layers.register name).2 = ledger.tables.layers :=
        LayerTable.register_of_absorbs absorbs
      simp only [enter, same]
  | sortingLayer name =>
      rcases absorbs with present | full
      · simp only [enter, SortingLayerTable.register_of_has present]
      · simp only [enter, SortingLayerTable.register_of_full full]

theorem absorbs_enter (ledger : Ledger) (entry : Entry) :
    (ledger.enter entry).tables.Absorbs entry := by
  cases entry with
  | tag name =>
      simp only [enter, Tables.Absorbs, TagTable.register]
      split
      next known => simpa using known
      · exact List.mem_append_right _ (List.mem_singleton_self name)
  | layer name => exact LayerTable.absorbs_register ledger.tables.layers name
  | sortingLayer name =>
      simp only [enter, Tables.Absorbs]
      by_cases present : ledger.tables.sortingLayers.has name = true
      · rw [SortingLayerTable.register_of_has present]
        exact .inl present
      · cases next : ledger.tables.sortingLayers.nextId? ledger.draws with
        | none =>
            have full := SortingLayerTable.nextId?_eq_none_iff.mp next
            rw [SortingLayerTable.register_of_full full]
            exact .inr full
        | some drawn =>
            rw [SortingLayerTable.register, if_neg present, next]
            refine .inl (SortingLayerTable.has_iff.mpr ?_)
            rw [List.map_append]
            exact List.mem_append_right _ (List.mem_singleton_self name)

/-- What is there stays there while other names are entered. -/
theorem absorbs_enter_other (absorbs : ledger.tables.Absorbs entry) (other : Entry) :
    (ledger.enter other).tables.Absorbs entry := by
  rcases enter_cases ledger other with same | adds
  · rw [same]
    exact absorbs
  have grown := Extends.of_adds adds
  cases entry with
  | tag name =>
      obtain ⟨new, more, -, -⟩ := grown.tags
      rw [Tables.Absorbs, more]
      exact List.mem_append_left _ absorbs
  | layer name =>
      cases other with
      | layer another => exact LayerTable.Absorbs.register absorbs another
      | tag another => exact absorbs
      | sortingLayer another => exact absorbs
  | sortingLayer name =>
      rcases absorbs with present | full
      · obtain ⟨new, more, -, -⟩ := grown.sortingNames
        refine .inl (SortingLayerTable.has_iff.mpr ?_)
        rw [more, List.map_append]
        exact List.mem_append_left _ (SortingLayerTable.has_iff.mp present)
      · cases other with
        | sortingLayer another =>
            simp only [enter, SortingLayerTable.register_of_full full]
            exact .inr full
        | tag another => exact .inr full
        | layer another => exact .inr full

/-! ## Runs -/

theorem absorbs_enterAll_others (absorbs : ledger.tables.Absorbs entry) (entries : List Entry) :
    (ledger.enterAll entries).tables.Absorbs entry := by
  induction entries generalizing ledger with
  | nil => exact absorbs
  | cons first rest ih => exact ih (absorbs_enter_other absorbs first)

theorem absorbs_enterAll (ledger : Ledger) (member : entry ∈ entries) :
    (ledger.enterAll entries).tables.Absorbs entry := by
  induction entries generalizing ledger with
  | nil => cases member
  | cons first rest ih =>
      rcases List.mem_cons.mp member with rfl | later
      · exact absorbs_enterAll_others (absorbs_enter ledger entry) rest
      · exact ih (ledger.enter first) later

theorem enterAll_of_absorbs (absorbs : ∀ entry ∈ entries, ledger.tables.Absorbs entry) :
    ledger.enterAll entries = ledger := by
  induction entries with
  | nil => rfl
  | cons first rest ih =>
      rw [enterAll_cons, enter_of_absorbs (absorbs first (List.mem_cons_self ..))]
      exact ih fun entry member => absorbs entry (List.mem_cons_of_mem _ member)

/-- Tables in which names were entered stay as they are when these are entered again, whatever the
draws are. -/
theorem enterAll_again (ledger : Ledger) (entries : List Entry) (draws : Draws) :
    (Ledger.mk (ledger.enterAll entries).tables draws).enterAll entries =
      ⟨(ledger.enterAll entries).tables, draws⟩ := by
  apply enterAll_of_absorbs
  intro entry member
  exact absorbs_enterAll ledger member

/-- Entering names adds them one after the other. -/
theorem run_enterAll (ledger : Ledger) (entries : List Entry) :
    ReflTransGen Adds ledger.tables (ledger.enterAll entries).tables := by
  induction entries generalizing ledger with
  | nil => exact .refl
  | cons first rest ih =>
      have later := ih (ledger.enter first)
      rcases enter_cases ledger first with same | adds
      · rw [enterAll_cons, same]
        rw [same] at later
        exact later
      · exact .head adds later

end Ledger

end GameScenes
