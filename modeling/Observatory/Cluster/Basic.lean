import Observatory.Cluster.Pod
import Observatory.Cluster.Request
import Observatory.Credential.Secret

/-! # The cluster

The objects a cluster holds, and the answers it gives. An object is found by kind, namespace and name;
it may be there and still refused.
-/

namespace Observatory

/-- An object that the cluster was asked for: what it holds, or the status of its refusal. -/
structure ClusterEntry where
  kind : String
  namespace_ : String
  name : String
  answer : Except Nat Document

structure Cluster where
  objects : List ClusterEntry
  definitions : Option (List Document)

namespace Cluster

def empty : Cluster := ⟨[], none⟩

/-- The first object with these three values, unless it is refused or cannot be asked for. -/
def object? (cluster : Cluster) (kind namespace_ name : String) : Option Document := do
  let name ← sentName? namespace_ name
  let entry ← cluster.objects.find? fun entry =>
    entry.kind == kind && entry.namespace_ == namespace_ && entry.name == name
  entry.answer.toOption

/-- The answer to a question about an owner. -/
def owner? (cluster : Cluster) (kind : OwnerKind) (namespace_ name : String) : Option FetchedOwner :=
  if kind.isLookedUp then
    (cluster.object? kind.name namespace_ name).bind (FetchedOwner.ofDocument? kind)
  else none

/-- The kinds of all custom resources. -/
def customKinds? (cluster : Cluster) : Option (List String) := do
  (← cluster.definitions).mapM definedKind?

def ownerSource (cluster : Cluster) : OwnerSource where
  fetch := cluster.owner?
  customKinds := cluster.customKinds?

/-- Why there is no answer about an owner. -/
inductive OwnerError where
  | refused
  | noLookup (kind : OwnerKind)
deriving DecidableEq, Repr

def OwnerError.message : OwnerError → String
  | .refused => "kubernetes request failed"
  | .noLookup kind => "no lookup for owner kind `" ++ kind.name ++ "`"

/-- Look up one owner. -/
def getOwner (cluster : Cluster) (kind : OwnerKind) (namespace_ name : String) :
    Except OwnerError FetchedOwner × List Lookup :=
  if kind.isLookedUp then
    let result :=
      match cluster.owner? kind namespace_ name with
      | some owner => .ok owner
      | none => .error .refused
    (result, [.object kind.name namespace_ name])
  else (.error (.noLookup kind), [])

/-! ## Pull secrets -/

/-- The data of a secret. -/
def secretData (document : Document) : Credential.SecretData :=
  match member? document "data" with
  | some (.object members) =>
      members.map fun (name, value) =>
        (name.getD "", (value.text?.bind (Text.decodeBase64? ·.toList)).getD [])
  | _ => []

def secretData? : Document → Option Credential.SecretData :=
  readAs? Schema.secret secretData

/-- The credentials in a pod's pull secrets, the one for the image first. Secrets that cannot be read
are passed over. -/
def podCredentials (cluster : Cluster) (pod : Pod) (image : String) : List Credential × List Lookup :=
  let namespace_ := pod.metadata.namespace_.getD "default"
  let names := pod.pullSecrets.filter (· ≠ "")
  let found := names.flatMap fun name =>
    match (cluster.object? "Secret" namespace_ name).bind secretData? with
    | some data => Credential.ofSecret data
    | none => []
  (Credential.prioritize found image, names.map (Lookup.object "Secret" namespace_))

end Cluster

end Observatory
