/-!
# Dictionaries

Values under texts, in ascending order of the texts.  Putting a value under a text replaces the
one that was there.
-/

set_option autoImplicit false

namespace GameScenes

/-- Values under texts, in ascending order. -/
structure Dictionary (α : Type) where
  entries : List (String × α)

namespace Dictionary

variable {α : Type}

/-- The dictionary without entries. -/
def empty : Dictionary α := ⟨[]⟩

/-- Entries with a value put under a key, before the first entry with a greater key. -/
def insertEntry (key : String) (value : α) : List (String × α) → List (String × α)
  | [] => [(key, value)]
  | (k, v) :: rest =>
      if k = key then (key, value) :: rest
      else if key < k then (key, value) :: (k, v) :: rest
      else (k, v) :: insertEntry key value rest

/-- A dictionary with a value put under a key. -/
def insert (d : Dictionary α) (key : String) (value : α) : Dictionary α :=
  ⟨insertEntry key value d.entries⟩

/-- The value under a key. -/
def get? (d : Dictionary α) (key : String) : Option α := d.entries.lookup key

/-- Whether there is a value under a key. -/
def contains (d : Dictionary α) (key : String) : Bool := (d.get? key).isSome

theorem lookup_insertEntry (key : String) (value : α) (entries : List (String × α))
    (other : String) :
    (insertEntry key value entries).lookup other =
      if other = key then some value else entries.lookup other := by
  induction entries with
  | nil =>
      by_cases same : other = key
      · simp [insertEntry, same]
      · have differs : (other == key) = false := by simpa using same
        simp [insertEntry, List.lookup_cons, same, differs]
  | cons entry rest ih =>
      obtain ⟨k, v⟩ := entry
      by_cases same : other = key
      · subst same
        simp only [insertEntry]
        split
        · simp
        · next differs =>
            split
            · simp
            · have apart : (other == k) = false := by
                simpa using fun equal : other = k => differs equal.symm
              simpa [List.lookup_cons, apart] using ih
      · have differs : (other == key) = false := by simpa using same
        simp only [insertEntry]
        split
        · next equal =>
            subst equal
            simp [List.lookup_cons, differs]
        · split
          · simp [List.lookup_cons, differs]
          · simp [List.lookup_cons, ih, same]

/-- Putting a value under a key changes what is under this key and nothing else. -/
@[simp] theorem get?_insert (d : Dictionary α) (key : String) (value : α) (other : String) :
    (d.insert key value).get? other = if other = key then some value else d.get? other :=
  lookup_insertEntry key value d.entries other

theorem mem_insertEntry {key : String} {value : α} {entries : List (String × α)}
    {entry : String × α} (member : entry ∈ insertEntry key value entries) :
    entry = (key, value) ∨ entry ∈ entries := by
  induction entries with
  | nil => exact .inl (List.mem_singleton.mp member)
  | cons first rest ih =>
      obtain ⟨k, v⟩ := first
      unfold insertEntry at member
      split at member
      · rcases List.mem_cons.mp member with new | old
        · exact .inl new
        · exact .inr (List.mem_cons_of_mem _ old)
      · split at member
        · exact List.mem_cons.mp member
        · rcases List.mem_cons.mp member with same | later
          · exact .inr (List.mem_cons.mpr (.inl same))
          · rcases ih later with new | old
            · exact .inl new
            · exact .inr (List.mem_cons_of_mem _ old)

@[simp] theorem get?_empty (key : String) : (empty : Dictionary α).get? key = none := rfl

end Dictionary

end GameScenes
