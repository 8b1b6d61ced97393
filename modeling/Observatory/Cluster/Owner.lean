/-! # Owners

A pod is owned by a controller, which may be owned in turn. The chain of owners is followed through
jobs and replica sets only, since any other controller is the workload itself. A chain that cannot be
followed to its end, or that is longer than eight, has no known owner.
-/

namespace Observatory.Cluster

inductive OwnerKind where
  | deployment
  | daemonSet
  | statefulSet
  | job
  | cronJob
  | replicaSet
  | pod
  | node
  | custom (kind : String)
deriving DecidableEq, Repr

namespace OwnerKind

def ofString (kind : String) : OwnerKind :=
  match kind with
  | "Deployment" => .deployment
  | "DaemonSet" => .daemonSet
  | "StatefulSet" => .statefulSet
  | "Job" => .job
  | "CronJob" => .cronJob
  | "ReplicaSet" => .replicaSet
  | "Pod" => .pod
  | "Node" => .node
  | other => .custom other

def name : OwnerKind → String
  | .deployment => "Deployment"
  | .daemonSet => "DaemonSet"
  | .statefulSet => "StatefulSet"
  | .job => "Job"
  | .cronJob => "CronJob"
  | .replicaSet => "ReplicaSet"
  | .pod => "Pod"
  | .node => "Node"
  | .custom kind => kind

def isCustom : OwnerKind → Bool
  | .custom _ => true
  | _ => false

/-- Objects of this kind can be looked up. -/
def isLookedUp : OwnerKind → Bool
  | .pod | .node | .custom _ => false
  | _ => true

/-- The owner of such an object is looked for beyond it. -/
def followsOwner : OwnerKind → Bool
  | .job | .replicaSet => true
  | _ => false

end OwnerKind

structure OwnerRef where
  kind : OwnerKind
  name : String
deriving DecidableEq, Repr

/-- An owner as the cluster describes it, with the first of its own owners. -/
structure FetchedOwner where
  name : String
  owner : Option OwnerRef
deriving DecidableEq, Repr

/-- What the cluster answers: the looked-up object of a kind, namespace and name, and the kinds of its
custom resources. `none` is a failure. -/
structure OwnerSource where
  fetch : OwnerKind → String → String → Option FetchedOwner
  customKinds : Option (List String)

/-- A question put to the cluster. -/
inductive Lookup where
  | object (kind namespace_ name : String)
  | customKinds
deriving DecidableEq, Repr

inductive ResolvedOwner where
  | resolved (kind name : String)
  | unknown
deriving DecidableEq, Repr

namespace ResolvedOwner

def kind : ResolvedOwner → String
  | .resolved kind _ => kind
  | .unknown => "unknownType"

def name : ResolvedOwner → String
  | .resolved _ name => name
  | .unknown => "unknownName"

def isResolved : ResolvedOwner → Bool
  | .resolved .. => true
  | .unknown => false

end ResolvedOwner

/-- Follow the chain of owners for at most `depth` elements, with the questions asked on the way. -/
def resolveWithin (source : OwnerSource) (namespace_ : String) : Nat → OwnerRef →
    ResolvedOwner × List Lookup
  | 0, _ => (.unknown, [])
  | depth + 1, current =>
      match current.kind with
      | .pod | .node => (.resolved current.kind.name current.name, [])
      | .custom kind =>
          let known := (source.customKinds.getD []).contains kind
          (if known then .resolved kind current.name else .unknown, [.customKinds])
      | kind =>
          let lookup := .object kind.name namespace_ current.name
          match source.fetch kind namespace_ current.name with
          | none => (.unknown, [lookup])
          | some fetched =>
              match fetched.owner, kind.followsOwner with
              | some owner, true =>
                  let (result, lookups) := resolveWithin source namespace_ depth owner
                  (result, lookup :: lookups)
              | _, _ => (.resolved kind.name fetched.name, [lookup])

/-- Longer chains are taken to be broken. -/
def maxOwnerDepth : Nat := 8

/-- The last owner of the chain that starts here. -/
def resolveOwner (source : OwnerSource) (namespace_ : String) (start : OwnerRef) :
    ResolvedOwner × List Lookup :=
  resolveWithin source namespace_ maxOwnerDepth start

end Observatory.Cluster
