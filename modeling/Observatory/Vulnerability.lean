import Observatory.Document.Record

/-! # Packages and vulnerabilities

A bill of materials lists the packages of an image with their files, a vulnerability report the known
weaknesses of packages. A weakness matters if the package it is in owns a file that was used.
-/

namespace Observatory

structure Package where
  name : String
  version : String
  files : List String
deriving DecidableEq, Repr

structure Sbom where
  packages : List Package
deriving DecidableEq, Repr

structure Vulnerability where
  id : String
  severity : String
  package : String
  version : String
deriving DecidableEq, Repr

structure VulnerabilityReport where
  vulnerabilities : List Vulnerability
deriving DecidableEq, Repr

namespace Sbom

def empty : Sbom := ⟨[]⟩

/-- The packages that own one of the files. -/
def retainFiles (sbom : Sbom) (used : List String) : Sbom :=
  ⟨sbom.packages.filter fun package => package.files.any (· ∈ used)⟩

def packageDocument (package : Package) : Document :=
  .record
    [("name", .text package.name), ("version", .text package.version),
      ("files", .array (package.files.map .text))]

def toDocument (sbom : Sbom) : Document :=
  .record [("packages", .array (sbom.packages.map packageDocument))]

def package? (document : Document) : Option Package := do
  let fields ← document.fields? ["name", "version", "files"]
  return {
    name := ← Document.required? fields "name" Document.text?
    version := ← Document.required? fields "version" Document.text?
    files := ← Document.defaulted? fields "files" [] (·.list? Document.text?) }

def ofDocument? (document : Document) : Option Sbom := do
  let fields ← document.fields? ["packages"]
  return { packages := ← Document.required? fields "packages" (·.list? package?) }

end Sbom

namespace VulnerabilityReport

def empty : VulnerabilityReport := ⟨[]⟩

/-- The weaknesses of packages that are listed, by name and version. -/
def relevantTo (report : VulnerabilityReport) (sbom : Sbom) : VulnerabilityReport :=
  ⟨report.vulnerabilities.filter fun vulnerability =>
    sbom.packages.any fun package =>
      package.name == vulnerability.package && package.version == vulnerability.version⟩

def vulnerabilityDocument (vulnerability : Vulnerability) : Document :=
  .record
    [("id", .text vulnerability.id), ("severity", .text vulnerability.severity),
      ("package", .text vulnerability.package), ("version", .text vulnerability.version)]

def toDocument (report : VulnerabilityReport) : Document :=
  .record [("vulnerabilities", .array (report.vulnerabilities.map vulnerabilityDocument))]

def vulnerability? (document : Document) : Option Vulnerability := do
  let fields ← document.fields? ["id", "severity", "package", "version"]
  return {
    id := ← Document.required? fields "id" Document.text?
    severity := ← Document.required? fields "severity" Document.text?
    package := ← Document.required? fields "package" Document.text?
    version := ← Document.required? fields "version" Document.text? }

def ofDocument? (document : Document) : Option VulnerabilityReport := do
  let fields ← document.fields? ["vulnerabilities"]
  return { vulnerabilities := ← Document.required? fields "vulnerabilities" (·.list? vulnerability?) }

end VulnerabilityReport

end Observatory
