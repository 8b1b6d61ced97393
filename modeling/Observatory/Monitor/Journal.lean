import Observatory.Cluster.Owner
import Observatory.Observation.Basic
import Observatory.Observation.Retention
import Observatory.Observation.TaskQueue
import Observatory.Scanner
import Observatory.Text.Decimal

/-! # The journal

What a monitor does that can be seen from outside, in order.
-/

namespace Observatory

/-- A message for the operator. -/
inductive Notice where
  | stopped (container : ContainerId) (report : Aggregation.Report)
  | stoppedInError (container : ContainerId) (reason : String)
  | aborted (container : ContainerId) (reason : String)
  | sbomFailed (image reason : String)
  | scanFailed (image reason : String)
  | dropped (task : Task)
  | unexpected (task : Task)
  | relevant (count total : Nat) (resourceName : String)
  | stored (service : Service) (resourceName : String)
  | taskFailed (task : Task) (reason : String)
deriving DecidableEq, Repr

namespace Notice

def number (n : Nat) : String := String.ofList (Text.decimal n)

def quoted (text : String) : String := "`" ++ text ++ "`"

def text : Notice → String
  | .stopped container report =>
      "Stop sniffing container " ++ quoted container.text ++ ": " ++ number report.events ++ " events, " ++
        number report.syscalls.length ++ " syscalls, " ++ number report.files.length ++ " files"
  | .stoppedInError container reason =>
      "Stop sniffing container " ++ quoted container.text ++ " with failed aggregation: " ++ reason
  | .aborted container reason =>
      "Stop sniffing container " ++ quoted container.text ++ " early, events were missed: " ++ reason
  | .sbomFailed image reason => "failed to generate SBOM of " ++ quoted image ++ ": " ++ reason
  | .scanFailed image reason => "failed to scan " ++ quoted image ++ ": " ++ reason
  | .dropped task =>
      "post-deadline queue closed, dropping " ++ task.service.tag ++ " of " ++ quoted task.container.text
  | .unexpected task =>
      "no active container " ++ quoted task.container.text ++ " for " ++ task.service.tag
  | .relevant count total resourceName =>
      number count ++ " of " ++ number total ++ " vulnerabilities of " ++ quoted resourceName ++
        " are relevant"
  | .stored service resourceName => "Stored " ++ service.tag ++ " of " ++ quoted resourceName
  | .taskFailed task reason =>
      "failed to process " ++ task.service.tag ++ " of container " ++ quoted task.container.text ++ ": " ++
        reason

end Notice


inductive Entry where
  /-- A start was answered, and led to an observation or not. -/
  | answered (container : ContainerId) (observed : Bool)
  | lookup (lookup : Cluster.Lookup)
  | scan (scan : Scan) (image : String) (credentials : List Credential)
  | phase (serial : Nat) (phase : Phase)
  /-- An artifact was handed to the store. -/
  | offered (serial : Nat) (artifact : Artifact)
  | stored (artifact : Artifact)
  | finished (serial : Nat) (record : Record)
  | notice (notice : Notice)
deriving DecidableEq, Repr

end Observatory
