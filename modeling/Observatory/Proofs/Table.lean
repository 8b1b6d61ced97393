import Observatory.Table
import Mathlib.Data.List.Nodup

/-! # Tables as finite maps

What each operation does to the value found under a key. A table all of whose keys are distinct is
determined by its lookups up to order, and every operation keeps the keys distinct.
-/

namespace Observatory.Table

variable {κ α : Type} [DecidableEq κ] {table : Table κ α} {key other : κ} {value : α}

/-! ## Lookups -/

private theorem lookup_entry_cons (first : κ) (value : α) (rest : List (κ × α)) (key : κ) :
    ((first, value) :: rest).lookup key = if key = first then some value else rest.lookup key := by
  by_cases same : key = first
  · simp [same]
  · rw [List.lookup_cons, beq_eq_false_iff_ne.mpr same, if_neg same]

@[simp] theorem get?_empty (key : κ) : (empty : Table κ α).get? key = none := rfl

/-- To erase a key leaves the others alone. -/
theorem get?_erase (table : Table κ α) (key other : κ) :
    (table.erase key).get? other = if other = key then none else table.get? other := by
  obtain ⟨entries⟩ := table
  simp only [erase, get?]
  induction entries with
  | nil => simp
  | cons entry rest ih =>
    obtain ⟨first, value⟩ := entry
    by_cases dropped : first = key
    · rw [List.filter_cons_of_neg (by simp [dropped]), ih, lookup_entry_cons, dropped]
      by_cases same : other = key <;> simp [same]
    · rw [List.filter_cons_of_pos (by simp [dropped]), lookup_entry_cons, lookup_entry_cons, ih]
      by_cases same : other = first
      · simp [same, dropped]
      · simp [same]

/-- To insert a value changes one key only. -/
theorem get?_insert (table : Table κ α) (key other : κ) (value : α) :
    (table.insert key value).get? other = if other = key then some value else table.get? other := by
  have erased := get?_erase table key other
  simp only [insert, get?] at erased ⊢
  rw [List.lookup_append, erased, lookup_entry_cons]
  by_cases same : other = key <;> simp [same]

@[simp] theorem get?_insert_self (table : Table κ α) (key : κ) (value : α) :
    (table.insert key value).get? key = some value := by
  simp [get?_insert]

/-- To modify a value does nothing for a key that is not there. -/
theorem get?_modify (table : Table κ α) (key other : κ) (f : α → α) :
    (table.modify key f).get? other = if other = key then (table.get? other).map f else table.get? other := by
  obtain ⟨entries⟩ := table
  simp only [modify, get?]
  induction entries with
  | nil => simp
  | cons entry rest ih =>
    obtain ⟨first, value⟩ := entry
    rw [List.map_cons, lookup_entry_cons, lookup_entry_cons, ih]
    by_cases found : other = first
    · subst found
      by_cases same : other = key <;> simp [same]
    · simp [found]

theorem contains_eq_isSome (table : Table κ α) (key : κ) :
    table.contains key = (table.get? key).isSome := rfl

@[simp] theorem contains_modify (table : Table κ α) (key other : κ) (f : α → α) :
    (table.modify key f).contains other = table.contains other := by
  simp only [contains, get?_modify]
  split <;> simp

/-! ## Distinct keys -/

/-- No key has two entries. -/
def Distinct (table : Table κ α) : Prop := (table.entries.map (·.1)).Nodup

omit [DecidableEq κ] in
theorem distinct_empty : (empty : Table κ α).Distinct := List.nodup_nil

theorem Distinct.erase (distinct : table.Distinct) (key : κ) : (table.erase key).Distinct :=
  distinct.sublist (List.filter_sublist.map _)

omit [DecidableEq κ] in
theorem Distinct.filter (distinct : table.Distinct) (keep : κ → α → Bool) : (table.filter keep).Distinct :=
  distinct.sublist (List.filter_sublist.map _)

/-- A key that is inserted again takes the place of the one before. -/
theorem Distinct.insert (distinct : table.Distinct) (key : κ) (value : α) :
    (table.insert key value).Distinct := by
  have erased := distinct.erase key
  simp only [Distinct, Table.insert, Table.erase, List.map_append, List.map_cons, List.map_nil] at erased ⊢
  rw [List.nodup_append]
  refine ⟨erased, List.nodup_singleton key, ?_⟩
  intro first member last single same
  obtain ⟨entry, kept, rfl⟩ := List.mem_map.mp member
  have differs := (List.mem_filter.mp kept).2
  simp_all

/-- What is in a table after a value was inserted. -/
theorem mem_entries_insert {entry : κ × α} :
    entry ∈ (table.insert key value).entries ↔
      (entry.1 ≠ key ∧ entry ∈ table.entries) ∨ entry = (key, value) := by
  simp [insert, erase, and_comm]

theorem mem_entries_of_get? (found : table.get? key = some value) : (key, value) ∈ table.entries := by
  obtain ⟨before, after, entries, -⟩ := List.lookup_eq_some_iff.mp found
  simp [entries]

/-- What is left was there before. -/
theorem contains_of_contains_filter {keep : κ → α → Bool} (found : (table.filter keep).contains key = true) :
    table.contains key = true := by
  obtain ⟨value, found⟩ := Option.isSome_iff_exists.mp found
  have member : (key, value) ∈ table.entries := List.mem_of_mem_filter (mem_entries_of_get? found)
  exact List.lookup_isSome_iff.mpr ⟨(key, value), member, by simp⟩

/-- In a table with distinct keys, the entries are what is found. -/
theorem Distinct.mem_entries_iff (distinct : table.Distinct) :
    (key, value) ∈ table.entries ↔ table.get? key = some value := by
  obtain ⟨entries⟩ := table
  simp only [get?, Distinct] at distinct ⊢
  induction entries with
  | nil => simp
  | cons entry rest ih =>
    obtain ⟨first, stored⟩ := entry
    simp only [List.map_cons, List.nodup_cons] at distinct
    rw [List.mem_cons, ih distinct.2, lookup_entry_cons]
    by_cases same : key = first
    · subst same
      -- a second entry of the key would repeat it
      have absent : List.lookup key rest ≠ some value := by
        intro found
        exact distinct.1 (List.mem_map.mpr ⟨(key, value), (ih distinct.2).mpr found, rfl⟩)
      simp [absent, eq_comm]
    · simp [same]

/-- Of a table with distinct keys, what is kept is found as before. -/
theorem Distinct.get?_filter (distinct : table.Distinct) (keep : κ → α → Bool) (key : κ) :
    (table.filter keep).get? key = (table.get? key).filter (keep key) := by
  have iff (value : α) : (table.filter keep).get? key = some value ↔
      (table.get? key).filter (keep key) = some value := by
    rw [← (distinct.filter keep).mem_entries_iff, Option.filter_eq_some_iff, ← distinct.mem_entries_iff]
    simp [Table.filter]
  exact Option.ext iff

/-- The values are what is found under some key. -/
theorem Distinct.mem_values_iff (distinct : table.Distinct) :
    value ∈ table.values ↔ ∃ key, table.get? key = some value := by
  simp only [values, List.mem_map, Prod.exists, exists_eq_right]
  exact exists_congr fun key => distinct.mem_entries_iff

end Observatory.Table
