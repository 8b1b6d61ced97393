import Observatory.Document.Shape

/-! # Shapes of metadata

What all objects of a cluster share: the metadata, and the selectors and conditions that several kinds
use.
-/

namespace Observatory.Cluster.Schema

open Document Document.Shape

/-- Amounts of a resource are texts, by the name of the resource. -/
def quantities : Shape := .map .text

def ownerReference : Shape :=
  .record (fields .text ["apiVersion", "kind", "name", "uid"] ++
    fields .bool ["blockOwnerDeletion", "controller"])

def managedFields : Shape :=
  .record (("fieldsV1", .any) :: ("time", .time) ::
    fields .text ["apiVersion", "fieldsType", "manager", "operation", "subresource"])

def metadata : Shape :=
  .record (
    fields .text ["generateName", "name", "namespace", "resourceVersion", "selfLink", "uid"] ++
    fields .time ["creationTimestamp", "deletionTimestamp"] ++
    fields .int64 ["deletionGracePeriodSeconds", "generation"] ++
    fields (.map .text) ["annotations", "labels"] ++
    [("finalizers", .list .text),
      ("managedFields", .list managedFields),
      ("ownerReferences", .list ownerReference)])

/-- A requirement on the labels or fields of an object. -/
def requirement : Shape :=
  .record (("values", .list .text) :: fields .text ["key", "operator"])

def labelSelector : Shape :=
  .record [("matchExpressions", .list requirement), ("matchLabels", .map .text)]

/-- A condition, with the times that its kind notes. -/
def condition (times : List String) : Shape :=
  .record (fields .text ["message", "reason", "status", "type"] ++ fields .time times)

/-- A record with nothing but a name. -/
def nameOnly : Shape :=
  .record [("name", .text)]

/-- An object of a kind, with the fields that it has beside its metadata. -/
def object (version kind : String) (fields : List (String × Shape)) : Shape :=
  .record
    (("apiVersion", .exactly version) :: ("kind", .exactly kind) :: ("metadata", metadata) :: fields)

end Observatory.Cluster.Schema
