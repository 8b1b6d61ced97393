import Observatory.Cluster.Owner
import Observatory.Text.Lowercase.Basic

/-! # Resource identities

The workload that a container belongs to. Artifacts are named after it, so that all replicas of a
workload share one name.
-/

namespace Observatory

structure ResourceIdentity where
  namespace_ : String
  ancestorKind : String
  ancestorName : String
  image : String
deriving DecidableEq, Repr

namespace ResourceIdentity

/-- The name of the workload's artifacts. -/
def resourceName (identity : ResourceIdentity) : String :=
  String.ofList
    ("namespace-".toList ++ identity.namespace_.toList ++ '.' ::
      Text.lowercase identity.ancestorKind.toList ++ '-' :: identity.ancestorName.toList ++
      ".imagename-".toList ++ identity.image.toList)

/-- The identity of a container by the owner of its pod. A pod without one is its own workload. -/
def resolve (source : Cluster.OwnerSource) (namespace_ podName : String)
    (podOwner : Option Cluster.OwnerRef) (image : String) : ResourceIdentity × List Cluster.Lookup :=
  let (owner, lookups) :=
    match podOwner with
    | some owner => Cluster.resolveOwner source namespace_ owner
    | none => (.resolved Cluster.OwnerKind.pod.name podName, [])
  (⟨namespace_, owner.kind, owner.name, image⟩, lookups)

end ResourceIdentity

end Observatory
