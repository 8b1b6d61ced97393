import Observatory.Document.Basic

/-! # Records in documents

A record is written as an object with named fields or as an array of its fields in order. Members with
other names are ignored, whatever they hold and however often they occur, but a field may not occur
twice, and a name has to be readable. In the array form fields at the end may be missing, and nothing
may follow the last one. Which missing fields are allowed is decided field by field.

A map, in contrast, takes every name, and the last value of a repeated name counts.
-/

namespace Observatory.Document

/-- The value of each field, found among the members of an object. -/
def fieldsOfMembers? (names : List String) : List (Option String × Document) →
    Option (List (String × Document))
  | [] => some []
  | (none, _) :: _ => none
  | (some name, value) :: rest => do
      let found ← fieldsOfMembers? names rest
      if name ∈ names then
        if (found.lookup name).isSome then none else return (name, value) :: found
      else return found

/-- The value of each field that a record has. -/
def fields? (names : List String) : Document → Option (List (String × Document))
  | .object members => fieldsOfMembers? names members
  | .array items => if items.length ≤ names.length then some (names.zip items) else none
  | _ => none

/-- A field that has to be there. -/
def required? {α : Type} (fields : List (String × Document)) (name : String)
    (read : Document → Option α) : Option α :=
  (fields.lookup name).bind read

/-- A field that may be missing. If it is there it has to be readable. -/
def defaulted? {α : Type} (fields : List (String × Document)) (name : String) (fallback : α)
    (read : Document → Option α) : Option α :=
  match fields.lookup name with
  | some value => read value
  | none => some fallback

/-- The entries of a map in order, every one readable. -/
def entries? {α : Type} (read : Document → Option α) : Document → Option (List (String × α))
  | .object members =>
      members.mapM fun (name, value) => do
        let name ← name
        let value ← read value
        return (name, value)
  | _ => none

end Observatory.Document
