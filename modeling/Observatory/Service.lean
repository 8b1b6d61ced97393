/-! # Services

What is derived from an observation once its window is over.
-/

namespace Observatory

inductive Service where
  | containerProfiling
  | relevantCves
deriving DecidableEq, Repr

def Service.tag : Service → String
  | .containerProfiling => "containerProfiling"
  | .relevantCves => "relevantCVEs"

structure EnabledServices where
  relevantCves : Bool
  containerProfiling : Bool
deriving DecidableEq, Repr

/-- The enabled services in the order in which their tasks are queued. -/
def EnabledServices.toList (enabled : EnabledServices) : List Service :=
  (if enabled.containerProfiling then [.containerProfiling] else []) ++
    (if enabled.relevantCves then [.relevantCves] else [])

end Observatory
