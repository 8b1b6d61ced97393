/-! # Completions

A result that arrives later and is assigned once.
-/

namespace Observatory

/-- The result of a phase, or its reason to fail, as soon as there is one. -/
structure Completion (α : Type) where
  result : Option (Except String α)

namespace Completion

variable {α : Type}

inductive Status where
  | pending
  | succeeded
  | failed (reason : String)
deriving DecidableEq, Repr

def pending : Completion α := ⟨none⟩

/-- Assign the result, unless there is one. -/
def complete (completion : Completion α) (result : Except String α) : Completion α :=
  ⟨completion.result.or (some result)⟩

def isPending (completion : Completion α) : Bool :=
  completion.result.isNone

def status (completion : Completion α) : Status :=
  match completion.result with
  | none => .pending
  | some (.ok _) => .succeeded
  | some (.error reason) => .failed reason

end Completion

end Observatory
