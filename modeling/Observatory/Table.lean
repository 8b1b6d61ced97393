/-! # Tables

A finite map that remembers the order in which its keys were last inserted. A key occurs at most once,
because inserting takes the old entry out first.
-/

namespace Observatory

structure Table (κ α : Type) where
  entries : List (κ × α)
deriving DecidableEq, Repr

namespace Table

variable {κ α : Type} [DecidableEq κ]

def empty : Table κ α := ⟨[]⟩

def get? (table : Table κ α) (key : κ) : Option α :=
  table.entries.lookup key

def contains (table : Table κ α) (key : κ) : Bool :=
  (table.get? key).isSome

def erase (table : Table κ α) (key : κ) : Table κ α :=
  ⟨table.entries.filter (·.1 ≠ key)⟩

/-- Put an entry at the end, in place of an older one with its key. -/
def insert (table : Table κ α) (key : κ) (value : α) : Table κ α :=
  ⟨(table.erase key).entries ++ [(key, value)]⟩

/-- Change the value of a key, if it has one, where it stands. -/
def modify (table : Table κ α) (key : κ) (f : α → α) : Table κ α :=
  ⟨table.entries.map fun (k, value) => (k, if k = key then f value else value)⟩

def filter (table : Table κ α) (keep : κ → α → Bool) : Table κ α :=
  ⟨table.entries.filter fun (key, value) => keep key value⟩

def size (table : Table κ α) : Nat :=
  table.entries.length

def values (table : Table κ α) : List α :=
  table.entries.map (·.2)

end Table

end Observatory
