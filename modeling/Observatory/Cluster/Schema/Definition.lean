import Observatory.Cluster.Schema.Metadata

/-! # Shapes of definitions and secrets

A custom resource definition adds a kind to the cluster. A secret holds bytes under names.
-/

namespace Observatory.Cluster.Schema

open Document Document.Shape

def secret : Shape :=
  object "v1" "Secret"
    [("data", .map .bytes), ("immutable", .bool), ("stringData", .map .text), ("type", .text)]

/-- The names of a kind. -/
def kindNames : Shape :=
  .record (fields .text ["kind", "listKind", "plural", "singular"] ++
    fields (.list .text) ["categories", "shortNames"])

def webhook : Shape :=
  .record
    [("clientConfig", .record
        [("caBundle", .bytes),
          ("service", .record (("port", .int32) :: fields .text ["name", "namespace", "path"])),
          ("url", .text)]),
      ("conversionReviewVersions", .list .text)]

def printerColumn : Shape :=
  .record (("priority", .int32) :: fields .text ["description", "format", "jsonPath", "name", "type"])

def subresources : Shape :=
  .record
    [("scale", .record
        (fields .text ["labelSelectorPath", "specReplicasPath", "statusReplicasPath"])),
      ("status", .any)]

def servedVersion : Shape :=
  .record (
    fields .text ["deprecationWarning", "name"] ++
    fields .bool ["deprecated", "served", "storage"] ++
    [("additionalPrinterColumns", .list printerColumn),
      ("schema", .record [("openAPIV3Schema", .schema)]),
      ("selectableFields", .list (.record [("jsonPath", .text)])),
      ("subresources", subresources)])

def definition : Shape :=
  object "apiextensions.k8s.io/v1" "CustomResourceDefinition"
    [("spec", .record
        [("conversion", .record [("strategy", .text), ("webhook", webhook)]),
          ("group", .text),
          ("names", kindNames),
          ("preserveUnknownFields", .bool),
          ("scope", .text),
          ("versions", .list servedVersion)]),
      ("status", .record
        [("acceptedNames", kindNames),
          ("conditions", .list (condition ["lastTransitionTime"])),
          ("storedVersions", .list .text)])]

end Observatory.Cluster.Schema
