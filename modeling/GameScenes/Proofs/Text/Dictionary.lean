import GameScenes.Text.Dictionary
import Mathlib.Data.String.Basic

/-!
# The order of a dictionary

Entries put in one after the other stand in ascending order of their keys, each key once
(`Ascending.insertEntry`).
-/

set_option autoImplicit false

namespace GameScenes.Dictionary

variable {α : Type} {entries : List (String × α)}

/-- That entries stand in ascending order of their keys, each key once. -/
def Ascending (entries : List (String × α)) : Prop := entries.Pairwise fun a b => a.1 < b.1

theorem mem_keys_insertEntry (key : String) (value : α) (entries : List (String × α))
    (other : String) :
    other ∈ (insertEntry key value entries).map (·.1) ↔
      other = key ∨ other ∈ entries.map (·.1) := by
  induction entries with
  | nil => simp [insertEntry]
  | cons first rest ih =>
      obtain ⟨k, v⟩ := first
      unfold insertEntry
      split
      next same =>
        subst same
        simp
      · split
        · simp
        · rw [List.map_cons, List.mem_cons, ih, List.map_cons, List.mem_cons]
          exact or_left_comm

theorem Ascending.insertEntry (ascending : Ascending entries) (key : String) (value : α) :
    Ascending (insertEntry key value entries) := by
  induction entries with
  | nil => exact List.pairwise_singleton ..
  | cons first rest ih =>
      obtain ⟨k, v⟩ := first
      obtain ⟨least, later⟩ := List.pairwise_cons.mp ascending
      unfold Dictionary.insertEntry
      split
      next same =>
        subst same
        exact List.pairwise_cons.mpr ⟨least, later⟩
      next other =>
        split
        next before =>
          refine List.pairwise_cons.mpr ⟨?_, ascending⟩
          intro entry member
          rcases List.mem_cons.mp member with rfl | further
          · exact before
          · exact lt_trans before (least entry further)
        next after =>
          have above : k < key := lt_of_le_of_ne (not_lt.mp after) other
          refine List.pairwise_cons.mpr ⟨?_, ih later⟩
          intro entry member
          rcases mem_insertEntry member with rfl | old
          · exact above
          · exact least entry old

/-- A key has one entry at most. -/
theorem Ascending.eq_of_key (ascending : Ascending entries) {a b : String × α} (here : a ∈ entries)
    (there : b ∈ entries) (same : a.1 = b.1) : a = b := by
  refine List.Pairwise.forall_of_forall_of_flip (R := fun a b => a.1 = b.1 → a = b) ?_ ?_ ?_ here
    there same
  · exact fun _ _ _ => rfl
  · exact ascending.imp fun less equal => absurd equal less.ne
  · exact ascending.imp fun less equal => absurd equal.symm less.ne

/-- Of two entries the later one has the greater key. -/
theorem Ascending.lt_of_lt (ascending : Ascending entries) {a b : String × α} {m n : Nat}
    (here : entries[m]? = some a) (there : entries[n]? = some b) (less : m < n) : a.1 < b.1 := by
  obtain ⟨inside, rfl⟩ := List.getElem?_eq_some_iff.mp here
  obtain ⟨within, rfl⟩ := List.getElem?_eq_some_iff.mp there
  exact List.pairwise_iff_getElem.mp ascending m n inside within less

theorem mem_of_lookup {key : String} {value : α} (found : entries.lookup key = some value) :
    (key, value) ∈ entries := by
  obtain ⟨before, after, rfl, -⟩ := List.lookup_eq_some_iff.mp found
  simp

end GameScenes.Dictionary
