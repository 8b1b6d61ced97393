import Observatory.Cluster.Schema.Volume

/-! # Shapes of containers

How a container is to run, and how it does.
-/

namespace Observatory.Cluster.Schema

open Document Document.Shape

def resources : Shape :=
  .record (("claims", .list (.record (fields .text ["name", "request"]))) ::
    fields quantities ["limits", "requests"])

/-! ## Security -/

/-- A named profile, possibly one of the node. -/
def securityProfile : Shape :=
  .record (fields .text ["localhostProfile", "type"])

/-- What a container and a pod can both demand. -/
def sharedSecurity : List (String × Shape) :=
  fields .int64 ["runAsGroup", "runAsUser"] ++
  fields securityProfile ["appArmorProfile", "seccompProfile"] ++
  [("runAsNonRoot", .bool),
    ("seLinuxOptions", .record (fields .text ["level", "role", "type", "user"])),
    ("windowsOptions", .record
      (("hostProcess", .bool) ::
        fields .text ["gmsaCredentialSpec", "gmsaCredentialSpecName", "runAsUserName"]))]

def containerSecurity : Shape :=
  .record (sharedSecurity ++
    fields .bool ["allowPrivilegeEscalation", "privileged", "readOnlyRootFilesystem"] ++
    [("capabilities", .record (fields (.list .text) ["add", "drop"])), ("procMount", .text)])

/-! ## Handlers and probes -/

def nameValue : Shape :=
  .record (fields .text ["name", "value"])

def commandAction : Shape :=
  .record [("command", .list .text)]

def httpAction : Shape :=
  .record (("httpHeaders", .list nameValue) :: ("port", .int32OrText) ::
    fields .text ["host", "path", "scheme"])

def socketAction : Shape :=
  .record [("host", .text), ("port", .int32OrText)]

def handler : Shape :=
  .record
    [("exec", commandAction), ("httpGet", httpAction), ("sleep", .record [("seconds", .int64)]),
      ("tcpSocket", socketAction)]

def probe : Shape :=
  .record (
    fields .int32
      ["failureThreshold", "initialDelaySeconds", "periodSeconds", "successThreshold",
        "timeoutSeconds"] ++
    [("exec", commandAction),
      ("grpc", .record [("port", .int32), ("service", .text)]),
      ("httpGet", httpAction),
      ("tcpSocket", socketAction),
      ("terminationGracePeriodSeconds", .int64)])

/-! ## Containers -/

def keySelector : Shape :=
  .record [("key", .text), ("name", .text), ("optional", .bool)]

def optionalName : Shape :=
  .record [("name", .text), ("optional", .bool)]

def environmentVariable : Shape :=
  .record (fields .text ["name", "value"] ++
    [("valueFrom", .record
      (fields keySelector ["configMapKeyRef", "secretKeyRef"] ++
        [("fieldRef", objectField), ("resourceFieldRef", resourceField)]))])

def environmentSource : Shape :=
  .record (("prefix", .text) :: fields optionalName ["configMapRef", "secretRef"])

def port : Shape :=
  .record (fields .int32 ["containerPort", "hostPort"] ++ fields .text ["hostIP", "name", "protocol"])

def volumeMount : Shape :=
  .record (("readOnly", .bool) ::
    fields .text
      ["mountPath", "mountPropagation", "name", "recursiveReadOnly", "subPath", "subPathExpr"])

def containerFields : List (String × Shape) :=
  fields .text
    ["image", "imagePullPolicy", "name", "restartPolicy", "terminationMessagePath",
      "terminationMessagePolicy", "workingDir"] ++
  fields .bool ["stdin", "stdinOnce", "tty"] ++
  fields (.list .text) ["args", "command"] ++
  fields probe ["livenessProbe", "readinessProbe", "startupProbe"] ++
  [("env", .list environmentVariable),
    ("envFrom", .list environmentSource),
    ("lifecycle", .record (fields handler ["postStart", "preStop"])),
    ("ports", .list port),
    ("resizePolicy", .list (.record (fields .text ["resourceName", "restartPolicy"]))),
    ("resources", resources),
    ("securityContext", containerSecurity),
    ("volumeDevices", .list (.record (fields .text ["devicePath", "name"]))),
    ("volumeMounts", .list volumeMount)]

def container : Shape :=
  .record containerFields

/-- A container that is added to a running pod. -/
def ephemeralContainer : Shape :=
  .record (("targetContainerName", .text) :: containerFields)

/-! ## State -/

def containerState : Shape :=
  .record
    [("running", .record [("startedAt", .time)]),
      ("terminated", .record
        (fields .text ["containerID", "message", "reason"] ++
          fields .time ["finishedAt", "startedAt"] ++ fields .int32 ["exitCode", "signal"])),
      ("waiting", .record (fields .text ["message", "reason"]))]

def containerStatus : Shape :=
  .record (
    fields .text ["containerID", "image", "imageID", "name"] ++
    fields .bool ["ready", "started"] ++
    fields containerState ["lastState", "state"] ++
    [("allocatedResources", quantities),
      ("allocatedResourcesStatus", .list (.record
        [("name", .text), ("resources", .list (.record (fields .text ["health", "resourceID"])))])),
      ("resources", resources),
      ("restartCount", .int32),
      ("user", .record
        [("linux", .record
          [("gid", .int64), ("supplementalGroups", .list .int64), ("uid", .int64)])]),
      ("volumeMounts", .list (.record
        (("readOnly", .bool) :: fields .text ["mountPath", "name", "recursiveReadOnly"])))])

end Observatory.Cluster.Schema
