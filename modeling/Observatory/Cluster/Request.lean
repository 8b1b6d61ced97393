import Observatory.Cluster.Owner
import Observatory.Net.Target

/-! # Requests to the cluster

An object is asked for by a path that ends in its namespace, its kind and its name. Namespace and name
are put into the path as they are. A request without a name is not sent, nor is one whose path would be
no path; and a name counts only up to the character that ends the path.
-/

namespace Observatory.Cluster

/-- The name that the cluster is asked for, if the request is sent. -/
def sentName? (namespace_ name : String) : Option String :=
  if name ≠ "" && namespace_.toList.all Net.isPathChar then
    (Net.pathOf? name.toList).map String.ofList
  else none

namespace Lookup

/-- What the cluster is asked, if the question is sent. -/
def sent? : Lookup → Option Lookup
  | .object kind namespace_ name => (sentName? namespace_ name).map (.object kind namespace_)
  | .customKinds => some .customKinds

/-- The question reaches the cluster. -/
def isSent (lookup : Lookup) : Bool :=
  lookup.sent?.isSome

def text : Lookup → String
  | .object kind namespace_ name => kind ++ " " ++ namespace_ ++ "/" ++ name
  | .customKinds => "CustomResourceDefinition list"

end Lookup

/-- The questions that reach the cluster, as texts. -/
def sentTexts (lookups : List Lookup) : List String :=
  (lookups.filterMap Lookup.sent?).map Lookup.text

end Observatory.Cluster
