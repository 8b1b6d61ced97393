import Observatory.Cluster.Schema.Container

/-! # The shape of a pod -/

namespace Observatory.Cluster.Schema

open Document Document.Shape

/-! ## Placement -/

def nodeTerm : Shape :=
  .record (fields (.list requirement) ["matchExpressions", "matchFields"])

def podTerm : Shape :=
  .record (("topologyKey", .text) :: fields labelSelector ["labelSelector", "namespaceSelector"] ++
    fields (.list .text) ["matchLabelKeys", "mismatchLabelKeys", "namespaces"])

/-- Weighted terms that are preferred, and terms that are required. -/
def attraction (weighted : String) (term required : Shape) : Shape :=
  .record
    [("preferredDuringSchedulingIgnoredDuringExecution",
        .list (.record [(weighted, term), ("weight", .int32)])),
      ("requiredDuringSchedulingIgnoredDuringExecution", required)]

def affinity : Shape :=
  .record
    (("nodeAffinity",
        attraction "preference" nodeTerm (.record [("nodeSelectorTerms", .list nodeTerm)])) ::
      fields (attraction "podAffinityTerm" podTerm (.list podTerm)) ["podAffinity", "podAntiAffinity"])

def toleration : Shape :=
  .record (("tolerationSeconds", .int64) :: fields .text ["effect", "key", "operator", "value"])

def topologySpread : Shape :=
  .record (
    fields .text ["nodeAffinityPolicy", "nodeTaintsPolicy", "topologyKey", "whenUnsatisfiable"] ++
    fields .int32 ["maxSkew", "minDomains"] ++
    [("labelSelector", labelSelector), ("matchLabelKeys", .list .text)])

/-! ## Pods -/

def podSecurity : Shape :=
  .record (sharedSecurity ++
    fields .text ["fsGroupChangePolicy", "seLinuxChangePolicy", "supplementalGroupsPolicy"] ++
    [("fsGroup", .int64), ("supplementalGroups", .list .int64), ("sysctls", .list nameValue)])

def podSpec : Shape :=
  .record (
    fields .text
      ["dnsPolicy", "hostname", "nodeName", "preemptionPolicy", "priorityClassName",
        "restartPolicy", "runtimeClassName", "schedulerName", "serviceAccount",
        "serviceAccountName", "subdomain"] ++
    fields .bool
      ["automountServiceAccountToken", "enableServiceLinks", "hostIPC", "hostNetwork", "hostPID",
        "hostUsers", "setHostnameAsFQDN", "shareProcessNamespace"] ++
    fields .int64 ["activeDeadlineSeconds", "terminationGracePeriodSeconds"] ++
    fields (.list container) ["containers", "initContainers"] ++
    fields (.list nameOnly) ["imagePullSecrets", "schedulingGates"] ++
    [("affinity", affinity),
      ("dnsConfig", .record
        (("options", .list nameValue) :: fields (.list .text) ["nameservers", "searches"])),
      ("ephemeralContainers", .list ephemeralContainer),
      ("hostAliases", .list (.record [("hostnames", .list .text), ("ip", .text)])),
      ("nodeSelector", .map .text),
      ("os", nameOnly),
      ("overhead", quantities),
      ("priority", .int32),
      ("readinessGates", .list (.record [("conditionType", .text)])),
      ("resourceClaims", .list (.record
        (fields .text ["name", "resourceClaimName", "resourceClaimTemplateName"]))),
      ("resources", resources),
      ("securityContext", podSecurity),
      ("tolerations", .list toleration),
      ("topologySpreadConstraints", .list topologySpread),
      ("volumes", .list volume)])

def podStatus : Shape :=
  .record (
    fields .text
      ["hostIP", "message", "nominatedNodeName", "phase", "podIP", "qosClass", "reason",
        "resize"] ++
    fields (.list containerStatus)
      ["containerStatuses", "ephemeralContainerStatuses", "initContainerStatuses"] ++
    fields (.list (.record [("ip", .text)])) ["hostIPs", "podIPs"] ++
    [("conditions", .list (condition ["lastProbeTime", "lastTransitionTime"])),
      ("resourceClaimStatuses", .list (.record (fields .text ["name", "resourceClaimName"]))),
      ("startTime", .time)])

def pod : Shape :=
  object "v1" "Pod" [("spec", podSpec), ("status", podStatus)]

/-- A pod that is to be made. -/
def podTemplate : Shape :=
  .record [("metadata", metadata), ("spec", podSpec)]

end Observatory.Cluster.Schema
