import Observatory.Cluster.Pod

/-! # Retention

The most recently finished observations, up to a fixed number.
-/

namespace Observatory

inductive Outcome where
  | completed (failedTasks : Nat)
  | aborted (reason : String)
deriving DecidableEq, Repr

def Outcome.isAborted : Outcome → Bool
  | .aborted _ => true
  | .completed _ => false

/-- An observation that has ended. -/
structure Record where
  container : ContainerId
  pod : Cluster.PodKey
  resourceName : String
  outcome : Outcome
deriving DecidableEq, Repr

/-- Finished observations, the oldest first. -/
structure Retention where
  capacity : Nat
  records : List Record
deriving DecidableEq, Repr

namespace Retention

def empty (capacity : Nat) : Retention := ⟨capacity, []⟩

/-- Add a record. As many of the oldest go as are too many for it. -/
def push (retention : Retention) (record : Record) : Retention :=
  if retention.capacity = 0 then retention
  else
    let surplus := retention.records.length + 1 - retention.capacity
    { retention with records := retention.records.drop surplus ++ [record] }

end Retention

end Observatory
