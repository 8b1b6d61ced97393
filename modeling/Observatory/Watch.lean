import Observatory.Monitor.Schedule

/-! # The pod watch

The cluster tells which pods there are and how they change. Pods of the first listing are only searched
for the monitor's own containers; a container that is seen to run later is observed. When a listing is
complete, finished containers of pods that it does not name are forgotten.
-/

namespace Observatory

open Cluster

/-- Where the monitor runs, and how its own pods are told from others. -/
structure Place where
  node : String
  marker : String
deriving DecidableEq, Repr

namespace Place

/-- The pod is one of the monitor's own. A pod without a name is not. -/
def isOwn (place : Place) (pod : Pod) : Bool :=
  match pod.metadata.name with
  | some name => Text.occursIn place.marker.toList name.toList
  | none => false

/-- The monitor's own containers in a pod. -/
def ownContainers (place : Place) (pod : Pod) : List RunningContainer :=
  if place.isOwn pod && pod.isOnNode place.node then pod.runningContainers else []

/-- The containers in a pod that are to be observed. -/
def foreignContainers (place : Place) (pod : Pod) : List RunningContainer :=
  if pod.isOnNode place.node && !place.isOwn pod then pod.runningContainers else []

end Place

inductive WatchEvent where
  | listingBegins
  | listed (pod : Pod)
  | listingEnds
  | applied (pod : Pod)
  | deleted (pod : Pod)
  | failed
deriving DecidableEq, Repr

/-- What the watch wants to be done. -/
inductive Request where
  /-- Exclude the monitor's own containers of a pod. -/
  | identify (pod : Pod)
  /-- Observe the containers of a pod. -/
  | observe (pod : Pod)
  | forget (pod : PodKey)
  | retain (pods : List PodKey)
deriving DecidableEq, Repr

structure Watch where
  /-- A listing has been completed. -/
  isSynced : Bool
  /-- The pods of the listing in progress. -/
  listing : Option (List PodKey)
deriving DecidableEq, Repr

namespace Watch

def empty : Watch := ⟨false, none⟩

/-- Follow one event of the watch. -/
def step (watch : Watch) : WatchEvent → Watch × List Request
  | .listingBegins => ({ watch with listing := some [] }, [])
  | .listed pod =>
      ({ watch with listing := watch.listing.map (· ++ [pod.key]) },
        .identify pod :: if watch.isSynced then [.observe pod] else [])
  | .listingEnds =>
      (⟨true, none⟩,
        match watch.listing with
        | some pods => [.retain pods]
        | none => [])
  | .applied pod => (watch, [.identify pod, .observe pod])
  | .deleted pod => (watch, [.forget pod.key])
  | .failed => (watch, [])

end Watch

namespace Monitor

/-- The start of a container in a pod. -/
def startOf (pod : Pod) (container : RunningContainer) (credentials : List Credential) : Start where
  container := container.id
  containerName := container.name
  pod := pod.key
  owner := pod.owner
  image := container.image
  imageDigest := container.imageDigest
  credentials := credentials

/-- Observe a container, unless it is the monitor's own or tracked. Credentials are looked up only if
the image will be scanned. -/
def observe (surroundings : Surroundings) (monitor : Monitor) (pod : Pod)
    (container : RunningContainer) : Monitor :=
  if monitor.accumulator.isOwn container.id || monitor.isTracked container.id then monitor
  else
    let (credentials, lookups) :=
      if monitor.policy.services.relevantCves then
        surroundings.cluster.podCredentials pod container.image
      else ([], [])
    let monitor := (monitor.write (lookups.map .lookup)).whileAsking surroundings lookups
    (monitor.start surroundings (startOf pod container credentials)).1

/-- Do what the watch wants. -/
def perform (surroundings : Surroundings) (place : Place) (monitor : Monitor) : Request → Monitor
  | .identify pod =>
      { monitor with
        accumulator := (place.ownContainers pod).foldl (·.addOwn ·.id) monitor.accumulator }
  | .observe pod => (place.foreignContainers pod).foldl (·.observe surroundings pod) monitor
  | .forget pod => monitor.forgetPod pod
  | .retain pods => monitor.retainPods pods

/-- Follow a sequence of watch events. -/
def follow (surroundings : Surroundings) (place : Place) (watch : Watch) (monitor : Monitor)
    (events : List WatchEvent) : Watch × Monitor :=
  events.foldl
    (fun (watch, monitor) event =>
      let (watch, requests) := watch.step event
      (watch, requests.foldl (·.perform surroundings place) monitor))
    (watch, monitor)

end Monitor

end Observatory
