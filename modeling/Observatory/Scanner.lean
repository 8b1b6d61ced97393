import Observatory.Credential.Basic
import Observatory.Document.Reader
import Observatory.Document.Record
import Observatory.Process
import Observatory.Text.Blank
import Observatory.Text.Utf8
import Observatory.Vulnerability

/-! # Scanners

Two programs look into images: one lists the packages of an image, the other its known weaknesses. Both
are given the image on the command line and the first of the credentials in their environment, and both
print a document.
-/

namespace Observatory

inductive Scan where
  | sbom
  | vulnerabilities
deriving DecidableEq, Repr

inductive ScanError where
  | launch (program : String) (error : LaunchError)
  | failed (program : String) (status : ExitStatus) (stderr : String)
  | unreadable (program : String)
deriving DecidableEq, Repr

def ScanError.message : ScanError → String
  | .launch program error => "failed to run `" ++ program ++ "`: " ++ error.message
  | .failed program status stderr =>
      "`" ++ program ++ "` exited unsuccessfully (" ++ status.text ++ "): " ++ stderr
  | .unreadable program => "failed to decode output of `" ++ program ++ "`"

namespace Scan

def defaultProgram : Scan → String
  | .sbom => "syft"
  | .vulnerabilities => "grype"

def options : Scan → List String
  | .sbom => ["-o", "syft-json", "-q"]
  | .vulnerabilities => ["-o", "json", "-q"]

/-- What the names of the program's environment variables begin with. -/
def variableStem : Scan → String
  | .sbom => "SYFT_REGISTRY_AUTH_"
  | .vulnerabilities => "GRYPE_REGISTRY_AUTH_"

/-- What a scan finds in its environment. A token is passed only if there is one. -/
def environment (scan : Scan) (credentials : List Credential) : List (String × String) :=
  match credentials with
  | [] => []
  | credential :: _ =>
      [(scan.variableStem ++ "AUTHORITY", credential.registry),
        (scan.variableStem ++ "USERNAME", credential.username),
        (scan.variableStem ++ "PASSWORD", credential.password)] ++
      if credential.auth = "" then [] else [(scan.variableStem ++ "TOKEN", credential.auth)]

def command (scan : Scan) (program image : String) (credentials : List Credential) : Command :=
  ⟨program, image :: scan.options, scan.environment credentials⟩

/-- What the program prints, if it succeeds. -/
def output (scan : Scan) (host : Host) (program image : String) (credentials : List Credential) :
    Except ScanError (List UInt8) :=
  match host.launch (scan.command program image credentials) with
  | .error error => .error (.launch program error)
  | .ok output =>
      if output.status.isSuccess then .ok output.stdout
      else
        let stderr := Text.trim (Text.Utf8.decodeLossy output.stderr)
        .error (.failed program output.status (String.ofList stderr))

end Scan

/-! ## Scanner documents -/

namespace Sbom

def location? (document : Document) : Option String := do
  let fields ← document.fields? ["path"]
  Document.required? fields "path" Document.text?

def scannedPackage? (document : Document) : Option Package := do
  let fields ← document.fields? ["name", "version", "locations"]
  return {
    name := ← Document.required? fields "name" Document.text?
    version := ← Document.defaulted? fields "version" "" Document.text?
    files := ← Document.defaulted? fields "locations" [] (·.list? location?) }

/-- A bill of materials as the scanner writes it. -/
def ofScan? (document : Document) : Option Sbom := do
  let fields ← document.fields? ["artifacts"]
  return { packages := ← Document.defaulted? fields "artifacts" [] (·.list? scannedPackage?) }

/-- List the packages of an image. -/
def generate (host : Host) (program image : String) (credentials : List Credential) :
    Except ScanError Sbom := do
  let bytes ← Scan.sbom.output host program image credentials
  match (Document.read? bytes).bind ofScan? with
  | some sbom => return sbom
  | none => throw (.unreadable program)

end Sbom

namespace VulnerabilityReport

/-- The two parts of a match that name a weakness and the package it is in. -/
def match? (document : Document) : Option Vulnerability := do
  let fields ← document.fields? ["vulnerability", "artifact"]
  let (id, severity) ← Document.required? fields "vulnerability" fun weakness => do
    let fields ← weakness.fields? ["id", "severity"]
    return (← Document.required? fields "id" Document.text?,
      ← Document.defaulted? fields "severity" "" Document.text?)
  let (package, version) ← Document.required? fields "artifact" fun package => do
    let fields ← package.fields? ["name", "version"]
    return (← Document.required? fields "name" Document.text?,
      ← Document.defaulted? fields "version" "" Document.text?)
  return ⟨id, severity, package, version⟩

/-- A vulnerability report as the scanner writes it. -/
def ofScan? (document : Document) : Option VulnerabilityReport := do
  let fields ← document.fields? ["matches"]
  return { vulnerabilities := ← Document.defaulted? fields "matches" [] (·.list? match?) }

/-- List the known weaknesses of an image. -/
def scan (host : Host) (program image : String) (credentials : List Credential) :
    Except ScanError VulnerabilityReport := do
  let bytes ← Scan.vulnerabilities.output host program image credentials
  match (Document.read? bytes).bind ofScan? with
  | some report => return report
  | none => throw (.unreadable program)

end VulnerabilityReport

end Observatory
