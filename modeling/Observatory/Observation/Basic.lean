import Observatory.Aggregation.Aggregator
import Observatory.Artifact
import Observatory.Cluster.Pod
import Observatory.Credential.Basic
import Observatory.Identity
import Observatory.Observation.Completion

/-! # Observations

One observation of one container: who is observed, as what and until when, what has become of the
results it needs, and how many of its tasks are left.
-/

namespace Observatory

inductive Phase where
  | starting
  | watching
  | stoppedByTimer
  | stoppedByOverflow
  | pipelineRunning
  | done
deriving DecidableEq, Repr

def Phase.name : Phase → String
  | .starting => "STARTING"
  | .watching => "WATCHING"
  | .stoppedByTimer => "STOPPED_BY_TIMER"
  | .stoppedByOverflow => "STOPPED_BY_OVERFLOW"
  | .pipelineRunning => "PIPELINE_RUNNING"
  | .done => "DONE"

/-- A container that has been seen to run. -/
structure Start where
  container : ContainerId
  containerName : String
  pod : Cluster.PodKey
  owner : Option Cluster.OwnerRef
  image : String
  imageDigest : String
  credentials : List Credential
deriving DecidableEq, Repr

structure Observation where
  /-- Observations are numbered as they begin, so that two of one container can be told apart. -/
  serial : Nat
  start : Start
  identity : ResourceIdentity
  deadline : Nat
  phase : Phase
  aggregator : Aggregation.Aggregator
  sbom : Completion Sbom
  vulnerabilities : Completion VulnerabilityReport
  aggregation : Completion Aggregation.Report
  /-- Tasks that are announced and not yet in the queue. -/
  unsent : List Service
  pendingTasks : Nat
  failedTasks : Nat

namespace Observation

def ofStart (serial : Nat) (start : Start) (identity : ResourceIdentity) (deadline : Nat) :
    Observation where
  serial := serial
  start := start
  identity := identity
  deadline := deadline
  phase := .starting
  aggregator := .created
  sbom := .pending
  vulnerabilities := .pending
  aggregation := .pending
  unsent := []
  pendingTasks := 0
  failedTasks := 0

def container (observation : Observation) : ContainerId :=
  observation.start.container

def resourceName (observation : Observation) : String :=
  observation.identity.resourceName

/-- The aggregator has been told to stop. -/
def isStopped (observation : Observation) : Bool :=
  observation.phase = .stoppedByTimer

/-- One task is done. The answer tells whether it was the last. -/
def taskDone (observation : Observation) (failed : Bool) : Observation × Bool :=
  ({ observation with
      pendingTasks := observation.pendingTasks - 1
      failedTasks := observation.failedTasks + if failed then 1 else 0 },
    observation.pendingTasks = 1)

/-! ## Deriving artifacts -/

def phaseFailed (reason : String) : String :=
  "required phase failed: " ++ reason

/-- An artifact together with how many weaknesses there were to choose from. -/
structure Derived where
  artifact : Artifact
  scanned : Nat
deriving DecidableEq, Repr

/-- The artifact of one service, or the reason why there is none. `none` as long as a result that it
needs is missing. -/
def derive? (observation : Observation) (service : Service) : Option (Except String Derived) :=
  match observation.aggregation.result with
  | none => none
  | some (.error reason) => some (.error (phaseFailed reason))
  | some (.ok report) =>
      match service with
      | .containerProfiling =>
          some (.ok ⟨.ofProfile observation.resourceName (.allowOnly report.syscalls), 0⟩)
      | .relevantCves =>
          match observation.sbom.result with
          | none => none
          | some (.error reason) => some (.error (phaseFailed reason))
          | some (.ok sbom) =>
              match observation.vulnerabilities.result with
              | none => none
              | some (.error reason) => some (.error (phaseFailed reason))
              | some (.ok scan) =>
                  let relevant := scan.relevantTo (sbom.retainFiles report.files)
                  some (.ok
                    ⟨.ofVulnerabilities observation.resourceName relevant, scan.vulnerabilities.length⟩)

end Observation

end Observatory
