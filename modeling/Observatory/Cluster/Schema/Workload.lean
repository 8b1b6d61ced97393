import Observatory.Cluster.Owner
import Observatory.Cluster.Schema.Pod

/-! # Shapes of workloads

The controllers that own pods.
-/

namespace Observatory.Cluster.Schema

open Document Document.Shape

/-- Fields that say which pods are wanted. -/
def podChoice : List (String × Shape) :=
  [("selector", labelSelector), ("template", podTemplate)]

/-- How pods are replaced: by a named method, which may have parameters. -/
def replacement (parameters : List (String × Shape)) : Shape :=
  .record [("rollingUpdate", .record parameters), ("type", .text)]

def changedConditions : Shape :=
  .list (condition ["lastTransitionTime"])

/-! ## Replicated pods -/

def deploymentSpec : Shape :=
  .record (podChoice ++
    fields .int32
      ["minReadySeconds", "progressDeadlineSeconds", "replicas", "revisionHistoryLimit"] ++
    [("paused", .bool),
      ("strategy", replacement (fields .int32OrText ["maxSurge", "maxUnavailable"]))])

def deploymentStatus : Shape :=
  .record (
    fields .int32
      ["availableReplicas", "collisionCount", "readyReplicas", "replicas", "unavailableReplicas",
        "updatedReplicas"] ++
    [("conditions", .list (condition ["lastTransitionTime", "lastUpdateTime"])),
      ("observedGeneration", .int64)])

def daemonSetSpec : Shape :=
  .record (podChoice ++
    fields .int32 ["minReadySeconds", "revisionHistoryLimit"] ++
    [("updateStrategy", replacement (fields .int32OrText ["maxSurge", "maxUnavailable"]))])

def daemonSetStatus : Shape :=
  .record (
    fields .int32
      ["collisionCount", "currentNumberScheduled", "desiredNumberScheduled", "numberAvailable",
        "numberMisscheduled", "numberReady", "numberUnavailable", "updatedNumberScheduled"] ++
    [("conditions", changedConditions), ("observedGeneration", .int64)])

def statefulSetSpec : Shape :=
  .record (podChoice ++
    fields .int32 ["minReadySeconds", "replicas", "revisionHistoryLimit"] ++
    fields .text ["podManagementPolicy", "serviceName"] ++
    [("ordinals", .record [("start", .int32)]),
      ("persistentVolumeClaimRetentionPolicy", .record (fields .text ["whenDeleted", "whenScaled"])),
      ("updateStrategy", replacement [("maxUnavailable", .int32OrText), ("partition", .int32)]),
      ("volumeClaimTemplates", .list claim)])

def statefulSetStatus : Shape :=
  .record (
    fields .int32
      ["availableReplicas", "collisionCount", "currentReplicas", "readyReplicas", "replicas",
        "updatedReplicas"] ++
    fields .text ["currentRevision", "updateRevision"] ++
    [("conditions", changedConditions), ("observedGeneration", .int64)])

def replicaSetSpec : Shape :=
  .record (podChoice ++ fields .int32 ["minReadySeconds", "replicas"])

def replicaSetStatus : Shape :=
  .record (
    fields .int32 ["availableReplicas", "fullyLabeledReplicas", "readyReplicas", "replicas"] ++
    [("conditions", changedConditions), ("observedGeneration", .int64)])

/-! ## Jobs -/

def failureRule : Shape :=
  .record
    [("action", .text),
      ("onExitCodes", .record
        (("values", .list .int32) :: fields .text ["containerName", "operator"])),
      ("onPodConditions", .list (.record (fields .text ["status", "type"])))]

def successRule : Shape :=
  .record [("succeededCount", .int32), ("succeededIndexes", .text)]

def jobSpec : Shape :=
  .record (podChoice ++
    fields .int32
      ["backoffLimit", "backoffLimitPerIndex", "completions", "maxFailedIndexes", "parallelism",
        "ttlSecondsAfterFinished"] ++
    fields .text ["completionMode", "managedBy", "podReplacementPolicy"] ++
    fields .bool ["manualSelector", "suspend"] ++
    [("activeDeadlineSeconds", .int64),
      ("podFailurePolicy", .record [("rules", .list failureRule)]),
      ("successPolicy", .record [("rules", .list successRule)])])

def jobStatus : Shape :=
  .record (
    fields .int32 ["active", "failed", "ready", "succeeded", "terminating"] ++
    fields .text ["completedIndexes", "failedIndexes"] ++
    fields .time ["completionTime", "startTime"] ++
    [("conditions", .list (condition ["lastProbeTime", "lastTransitionTime"])),
      ("uncountedTerminatedPods", .record (fields (.list .text) ["failed", "succeeded"]))])

def objectReference : Shape :=
  .record (fields .text
    ["apiVersion", "fieldPath", "kind", "name", "namespace", "resourceVersion", "uid"])

def cronJobSpec : Shape :=
  .record (
    fields .text ["concurrencyPolicy", "schedule", "timeZone"] ++
    fields .int32 ["failedJobsHistoryLimit", "successfulJobsHistoryLimit"] ++
    [("jobTemplate", .record [("metadata", metadata), ("spec", jobSpec)]),
      ("startingDeadlineSeconds", .int64),
      ("suspend", .bool)])

def cronJobStatus : Shape :=
  .record
    (("active", .list objectReference) :: fields .time ["lastScheduleTime", "lastSuccessfulTime"])

/-! ## Owners -/

/-- The shape of a controller that can be looked up. -/
def owner? (kind : OwnerKind) : Option Shape :=
  let controller (version : String) (spec status : Shape) : Option Shape :=
    some (object version kind.name [("spec", spec), ("status", status)])
  match kind with
  | .deployment => controller "apps/v1" deploymentSpec deploymentStatus
  | .daemonSet => controller "apps/v1" daemonSetSpec daemonSetStatus
  | .statefulSet => controller "apps/v1" statefulSetSpec statefulSetStatus
  | .replicaSet => controller "apps/v1" replicaSetSpec replicaSetStatus
  | .job => controller "batch/v1" jobSpec jobStatus
  | .cronJob => controller "batch/v1" cronJobSpec cronJobStatus
  | .pod | .node | .custom _ => none

end Observatory.Cluster.Schema
