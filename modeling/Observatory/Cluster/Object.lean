import Observatory.Cluster.Schema.Definition
import Observatory.Cluster.Schema.Workload

/-! # Cluster objects

Reading the objects of a cluster's interface. An object is readable only if it has the shape of its kind
from the outermost member to the innermost one. After that a missing text is empty, a missing list has
no items, and members that are not needed are ignored.
-/

namespace Observatory.Cluster

open Document

/-- The last member of a name, a null counting as none. -/
def member? (document : Document) (name : String) : Option Document :=
  match document with
  | .object members => (members.reverse.lookup (some name)).filter (!·.isNull)
  | _ => none

/-- The member of a member, and so on. -/
def memberAt? (document : Document) (names : List String) : Option Document :=
  names.foldlM member? document

def textMember? (document : Document) (name : String) : Option String :=
  (member? document name).bind Document.text?

/-- A text that is empty where it is missing. -/
def textMember (document : Document) (name : String) : String :=
  (textMember? document name).getD ""

/-- A list that is empty where it is missing. -/
def listMember (document : Document) (name : String) : List Document :=
  match member? document name with
  | some (.array items) => items
  | _ => []

/-- A document of a shape, read by a function that relies on it. -/
def readAs? {α : Type} (shape : Shape) (read : Document → α) (document : Document) : Option α :=
  if shape.fits document then some (read document) else none

/-! ## Metadata -/

def ownerRef (document : Document) : OwnerRef :=
  ⟨.ofString (textMember document "kind"), textMember document "name"⟩

/-- The part of an object that all kinds share. -/
structure Metadata where
  name : Option String
  generateName : Option String
  namespace_ : Option String
  owners : List OwnerRef
deriving DecidableEq, Repr

/-- The metadata of an object. -/
def Metadata.ofObject (document : Document) : Metadata :=
  let metadata := (member? document "metadata").getD (.object [])
  { name := textMember? metadata "name"
    generateName := textMember? metadata "generateName"
    namespace_ := textMember? metadata "namespace"
    owners := (listMember metadata "ownerReferences").map ownerRef }

/-! ## Owners and definitions -/

/-- An owner, described by its metadata. Its name is the given one, else the one to be generated. -/
def FetchedOwner.ofObject (document : Document) : FetchedOwner :=
  let metadata := Metadata.ofObject document
  { name := (metadata.name.or metadata.generateName).getD ""
    owner := metadata.owners.head? }

/-- An owner of a kind that can be looked up. -/
def FetchedOwner.ofDocument? (kind : OwnerKind) (document : Document) : Option FetchedOwner :=
  (Schema.owner? kind).bind fun shape => readAs? shape FetchedOwner.ofObject document

/-- The kind that a custom resource definition serves: the accepted one, or the requested one as long
as none is accepted. -/
def definedKind (document : Document) : String :=
  let kindAt (path : List String) : String :=
    ((memberAt? document (path ++ ["kind"])).bind Document.text?).getD ""
  let accepted := kindAt ["status", "acceptedNames"]
  if accepted ≠ "" then accepted else kindAt ["spec", "names"]

def definedKind? : Document → Option String :=
  readAs? Schema.definition definedKind

end Observatory.Cluster
