import Observatory.Profile
import Observatory.Service
import Observatory.Vulnerability

/-! # Artifacts

What an observation leaves behind: per service one artifact, named after the workload and carrying the
payload of that service only.
-/

namespace Observatory

structure Artifact where
  resourceName : String
  service : Service
  vulnerabilities : Option VulnerabilityReport
  syscallProfile : Option SyscallProfile
deriving DecidableEq, Repr

namespace Artifact

def ofProfile (resourceName : String) (profile : SyscallProfile) : Artifact :=
  ⟨resourceName, .containerProfiling, none, some profile⟩

def ofVulnerabilities (resourceName : String) (report : VulnerabilityReport) : Artifact :=
  ⟨resourceName, .relevantCves, some report, none⟩

/-- Why the database did not store or find artifacts. -/
inductive StoreError where
  | connection (reason : String)
  | insert (resourceName reason : String)
  | read (reason : String)
deriving DecidableEq, Repr

def StoreError.message : StoreError → String
  | .connection reason => "failed to connect to database: " ++ reason
  | .insert resourceName reason => "failed to insert artifact `" ++ resourceName ++ "`: " ++ reason
  | .read reason => "failed to read artifacts: " ++ reason

/-- What a store reports once its connections have been given up. -/
def closedPool : String :=
  "attempted to acquire a connection on a closed pool"

end Artifact

end Observatory
