/-! # Sorted names

Sets of names as lists in strictly increasing order. Names are ordered by their code points, which is
the order of their UTF-8 bytes.
-/

namespace Observatory.Sorted

/-- Add a name where it belongs, unless it is there. -/
def insert (name : String) : List String → List String
  | [] => [name]
  | first :: rest =>
      if name < first then name :: first :: rest
      else if name = first then first :: rest
      else first :: insert name rest

/-- The distinct names of a list, in order. -/
def ofList (names : List String) : List String :=
  names.foldl (fun sorted name => insert name sorted) []

end Observatory.Sorted
