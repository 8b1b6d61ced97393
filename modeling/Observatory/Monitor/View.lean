import Observatory.Document.Basic
import Observatory.Monitor.Basic

/-! # Views of a monitor

Documents that show events, running observations and finished ones.
-/

namespace Observatory

def Trace.Event.toDocument (event : Trace.Event) : Document :=
  .record
    [("timestamp", .text (String.ofList event.timestamp.toText)),
      ("container_id", .text event.container.text),
      ("syscall_category", .text event.category),
      ("ppid", .nat event.ppid.toNat),
      ("pid", .nat event.pid.toNat),
      ("syscall_type", .text event.syscall),
      ("exe", .text event.exe),
      ("cmd", .text event.cmd)]

def Cluster.PodKey.toDocument (key : Cluster.PodKey) : Document :=
  .record [("namespace", .text key.namespace_), ("name", .text key.name)]

def Completion.Status.toDocument : Completion.Status → Document
  | .pending => .record [("status", .text "pending")]
  | .succeeded => .record [("status", .text "succeeded")]
  | .failed reason => .record [("status", .text "failed"), ("reason", .text reason)]

/-- What is shown of a running observation. -/
def Observation.toDocument (observation : Observation) : Document :=
  .record
    [("container_id", .text observation.container.text),
      ("container_name", .text observation.start.containerName),
      ("pod", observation.start.pod.toDocument),
      ("image", .text observation.start.image),
      ("resource_name", .text observation.resourceName),
      ("phase", .text observation.phase.name),
      ("sbom", observation.sbom.status.toDocument),
      ("vulnerabilities", observation.vulnerabilities.status.toDocument),
      ("aggregation", observation.aggregation.status.toDocument)]

def Outcome.toDocument : Outcome → Document
  | .completed failedTasks => .record [("result", .text "completed"), ("failed_tasks", .nat failedTasks)]
  | .aborted reason => .record [("result", .text "aborted"), ("reason", .text reason)]

def Record.toDocument (record : Record) : Document :=
  .record
    [("container_id", .text record.container.text),
      ("pod", record.pod.toDocument),
      ("resource_name", .text record.resourceName),
      ("outcome", record.outcome.toDocument)]

def Artifact.toDocument (artifact : Artifact) : Document :=
  .record
    [("resource_name", .text artifact.resourceName),
      ("service", .text artifact.service.tag),
      ("vulnerabilities", (artifact.vulnerabilities.map (·.toDocument)).getD .null),
      ("syscall_profile", (artifact.syscallProfile.map (·.toDocument)).getD .null)]

end Observatory
