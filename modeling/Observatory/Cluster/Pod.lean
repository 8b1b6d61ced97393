import Observatory.Cluster.Object
import Observatory.ContainerId

/-! # Pods

What the monitor needs to know of a pod: its key, its owner, the node it runs on, its pull secrets and
its running containers.
-/

namespace Observatory.Cluster

structure PodKey where
  namespace_ : String
  name : String
deriving DecidableEq, Repr

def PodKey.text (key : PodKey) : String :=
  key.namespace_ ++ "/" ++ key.name

/-- The state of one container of a pod. -/
structure ContainerStatus where
  name : String
  image : String
  imageId : String
  runtimeUri : Option String
  isRunning : Bool
deriving DecidableEq, Repr

structure Pod where
  metadata : Metadata
  nodeName : Option String
  pullSecrets : List String
  statuses : List ContainerStatus
deriving DecidableEq, Repr

/-- A container that runs and can be told by its id. -/
structure RunningContainer where
  id : ContainerId
  name : String
  image : String
  imageDigest : String
deriving DecidableEq, Repr

namespace Pod

def key (pod : Pod) : PodKey :=
  ⟨pod.metadata.namespace_.getD "", pod.metadata.name.getD ""⟩

/-- The first owner. -/
def owner (pod : Pod) : Option OwnerRef :=
  pod.metadata.owners.head?

def isOnNode (pod : Pod) (node : String) : Bool :=
  pod.nodeName == some node

def runningContainers (pod : Pod) : List RunningContainer :=
  pod.statuses.filterMap fun status => do
    if status.isRunning then
      let id ← ContainerId.ofRuntimeUri? (← status.runtimeUri)
      return ⟨id, status.name, status.image, imageDigest status.imageId⟩
    else none

/-- The state of a container of the pod. It runs if its state says so. -/
def containerStatus (document : Document) : ContainerStatus where
  name := textMember document "name"
  image := textMember document "image"
  imageId := textMember document "imageID"
  runtimeUri := textMember? document "containerID"
  isRunning := (memberAt? document ["state", "running"]).isSome

def ofObject (document : Document) : Pod :=
  let spec := (member? document "spec").getD (.object [])
  let status := (member? document "status").getD (.object [])
  { metadata := .ofObject document
    nodeName := textMember? spec "nodeName"
    pullSecrets := (listMember spec "imagePullSecrets").map (textMember · "name")
    statuses := (listMember status "containerStatuses").map containerStatus }

def ofDocument? : Document → Option Pod :=
  readAs? Schema.pod ofObject

end Pod

end Observatory.Cluster
