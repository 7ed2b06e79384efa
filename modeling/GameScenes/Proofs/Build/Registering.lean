import GameScenes.Proofs.Build.Entries

/-!
# Tables that only grow

Whatever a run registers, in whatever order and with whatever draws, the tables keep what they hold
where it is: scenes that were saved before go on to mean the same layers
(`registering_grows_tables`).
-/

set_option autoImplicit false

namespace GameScenes.Build

open Relation (ReflTransGen)
open Tables (Adds Entry Extends)

/-- What a run may ask its context to register. -/
inductive Call where
  | tag (raw : String)
  | layer (raw subject : String)
  | sortingLayer (raw : String)
  | settings (listed : Document.Settings)

namespace Call

def perform (ctx : Context) : Call → Context
  | tag raw => (ctx.registerTag raw).1
  | layer raw subject => (ctx.registerLayer raw subject).1
  | sortingLayer raw => (ctx.registerSortingLayer raw).1
  | settings listed => ctx.applySettings listed

def performAll (ctx : Context) (calls : List Call) : Context := calls.foldl perform ctx

def entries : Call → List Entry
  | tag raw => [.tag (Text.trim raw)]
  | layer raw _ => [.layer (Text.trim raw)]
  | sortingLayer raw => Context.sortingEntries raw
  | settings listed => settingsEntries listed

theorem ledger_perform (ctx : Context) (call : Call) :
    (call.perform ctx).ledger = ctx.ledger.enterAll call.entries := by
  cases call with
  | tag raw => exact ctx.ledger_registerTag raw
  | layer raw subject => exact ctx.ledger_registerLayer raw subject
  | sortingLayer raw => exact ctx.ledger_registerSortingLayer raw
  | settings listed => exact ledger_applySettings ctx listed

theorem ledger_performAll (ctx : Context) (calls : List Call) :
    (performAll ctx calls).ledger = ctx.ledger.enterAll (calls.flatMap entries) := by
  induction calls generalizing ctx with
  | nil => rfl
  | cons call rest ih =>
      have later : (performAll ctx (call :: rest)).ledger =
          (call.perform ctx).ledger.enterAll (rest.flatMap entries) := ih (call.perform ctx)
      rw [later, ledger_perform, List.flatMap_cons, Ledger.enterAll_append]

end Call

/-- What is recorded for a layer that gets no slot. -/
def capacityFault (layer subject : String) : Diagnostic :=
  (((Diagnostic.warning .layerCapacityExceeded (LayerTable.capacityMessage layer)).about
    subject).inField "layer").withValue layer

/-- That a table has no slot left for documents. -/
def Full (layers : LayerTable) : Prop :=
  ∀ i, firstUserLayer ≤ i → i < layerSlotCount →
    ∃ name, layers.slots[i]? = some (some name)

section

variable (ctx : Context) (raw subject : String)

theorem registerLayer_eq_none_iff :
    (ctx.registerLayer raw subject).2 = none ↔
      some (Text.trim raw) ∉ ctx.tables.layers.slots ∧ Full ctx.tables.layers := by
  rw [ctx.registerLayer_slot, Option.map_eq_none_iff, Context.layers, LayerTable.register,
    ← LayerTable.indexOf?_eq_none_iff, Full, ← LayerTable.freeSlot?_eq_none_iff]
  cases ctx.tables.layers.indexOf? (Text.trim raw) with
  | some index => simp
  | none =>
      cases ctx.tables.layers.freeSlot? with
      | some slot => simp
      | none => simp

theorem registerLayer_of_none (refused : (ctx.registerLayer raw subject).2 = none) :
    (ctx.registerLayer raw subject).1 = ctx.record (capacityFault (Text.trim raw) subject) := by
  simp only [Context.registerLayer] at refused ⊢
  generalize ctx.tables.layers.register (Text.trim raw) = result at refused ⊢
  obtain ⟨slot, filled⟩ := result
  cases slot with
  | some slot => cases refused
  | none => rfl

/-- A layer that gets a slot has its name in it, and nothing is recorded. -/
theorem registerLayer_of_some {slot : Nat} (given : (ctx.registerLayer raw subject).2 = some slot) :
    (ctx.registerLayer raw subject).1.tables.layers.slots[slot]? = some (some (Text.trim raw)) ∧
      (ctx.registerLayer raw subject).1.log = ctx.log := by
  simp only [Context.registerLayer, LayerTable.register] at given ⊢
  cases found : ctx.tables.layers.indexOf? (Text.trim raw) with
  | some index =>
      rw [found] at given
      cases given
      obtain ⟨inside, same, -⟩ := List.findIdx?_eq_some_iff_getElem.mp found
      exact ⟨List.getElem?_eq_some_iff.mpr ⟨inside, by simpa using same⟩, rfl⟩
  | none =>
      rw [found] at given
      dsimp only at given ⊢
      cases free : ctx.tables.layers.freeSlot? with
      | none =>
          rw [free] at given
          cases given
      | some index =>
          rw [free] at given
          cases given
          have inside := (List.getElem?_eq_some_iff.mp (LayerTable.getElem?_of_freeSlot? free)).1
          exact ⟨List.getElem?_set_self inside, rfl⟩

end

/-- What asking for a layer comes to: it is refused exactly when it has no slot and none is left, and
then a fault is recorded and nothing else happens. -/
structure AnswersLayer (ctx : Context) (raw subject : String) : Prop where
  refused_iff : (ctx.registerLayer raw subject).2 = none ↔
    some (Text.trim raw) ∉ ctx.tables.layers.slots ∧ Full ctx.tables.layers
  refused : (ctx.registerLayer raw subject).2 = none →
    (ctx.registerLayer raw subject).1 = ctx.record (capacityFault (Text.trim raw) subject)
  given : ∀ slot, (ctx.registerLayer raw subject).2 = some slot →
    (ctx.registerLayer raw subject).1.tables.layers.slots[slot]? = some (some (Text.trim raw)) ∧
      (ctx.registerLayer raw subject).1.log = ctx.log

/-- All that calls do to the tables is to add names one after the other, each of them new and in its
place; what the tables held before stays where it was. -/
theorem registering_grows_tables (ctx : Context) (calls : List Call) :
    ReflTransGen Adds ctx.tables (Call.performAll ctx calls).tables ∧
      Extends ctx.tables (Call.performAll ctx calls).tables ∧
      ∀ raw subject, AnswersLayer (Call.performAll ctx calls) raw subject := by
  have run := Ledger.run_enterAll ctx.ledger (calls.flatMap Call.entries)
  rw [← Call.ledger_performAll ctx calls] at run
  refine ⟨run, Extends.of_run run, ?_⟩
  intro raw subject
  exact ⟨registerLayer_eq_none_iff _ raw subject, registerLayer_of_none _ raw subject,
    fun slot given => registerLayer_of_some _ raw subject given⟩

end GameScenes.Build
