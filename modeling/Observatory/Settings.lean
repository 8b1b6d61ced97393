import Observatory.Net.SocketAddress
import Observatory.Service
import Observatory.Tracer

/-! # Settings

A monitor is set up by variables. White space around a value does not count, and a variable without a
value counts as unset. The variables are checked in a fixed order, so the first fault is the one that
is reported.
-/

namespace Observatory

inductive SettingsError where
  | missing (key : String)
  | invalid (key value reason : String)
deriving DecidableEq, Repr

def SettingsError.message : SettingsError → String
  | .missing key => "missing required environment variable `" ++ key ++ "`"
  | .invalid key value reason => "invalid value `" ++ value ++ "` for `" ++ key ++ "`: " ++ reason

structure Settings where
  nodeName : String
  windowMinutes : Nat
  selfContainer : Option ContainerId
  selfPodMarker : String
  services : EnabledServices
  cacheSize : Nat
  tracer : Tracer
  sbomProgram : String
  vulnerabilityProgram : String
  databaseUrl : String
  listenAddress : Net.SocketAddress
  retainedContainers : Nat
deriving DecidableEq, Repr

namespace Settings

/-- Where variables are looked up. -/
abbrev Variables := String → Option String

/-- The value of a variable, if it is set. -/
def value? (source : Variables) (key : String) : Option String := do
  let value := Text.trim (← source key).toList
  if value.isEmpty then none else return String.ofList value

def required (source : Variables) (key : String) : Except SettingsError String :=
  match value? source key with
  | some value => .ok value
  | none => .error (.missing key)

def valueOr (source : Variables) (key fallback : String) : String :=
  (value? source key).getD fallback

/-- Read a value, the reason for a failure being told by the reader. -/
def readAs {α : Type} (read : String → Except String α) (key value : String) : Except SettingsError α :=
  match read value with
  | .ok result => .ok result
  | .error reason => .error (.invalid key value reason)

def readOr {α : Type} (read : String → Except String α) (source : Variables) (key : String)
    (fallback : α) : Except SettingsError α :=
  match value? source key with
  | some value => readAs read key value
  | none => .ok fallback

/-! ## Kinds of values -/

def readBool : String → Except String Bool
  | "true" => .ok true
  | "false" => .ok false
  | _ => .error "provided string was not `true` or `false`"

/-- Numbers of 64 bits. -/
def readNumber (value : String) : Except String Nat :=
  match Text.readUnsigned (UInt64.size - 1) value.toList with
  | .ok number => .ok number
  | .error error => .error error.message

/-- One year. -/
def maxWindowMinutes : Nat := 365 * 24 * 60

def readWindow (value : String) : Except String Nat := do
  let minutes ← readNumber value
  if maxWindowMinutes < minutes then
    throw ("must not exceed " ++ String.ofList (Text.decimal maxWindowMinutes) ++ " minutes")
  else return minutes

def readContainer (value : String) : Except String (Option ContainerId) :=
  match ContainerId.ofString value with
  | .ok container => .ok (some container)
  | .error error => .error error.message

def readAddress (value : String) : Except String Net.SocketAddress :=
  match Net.SocketAddress.read? value.toList with
  | some address => .ok address
  | none => .error "invalid socket address syntax"

/-- The categories that the tracer is to report. -/
def syscallFilter (source : Variables) : List (List Char) :=
  match value? source "TRACER_SYSCALL_FILTER" with
  | some value => Tracer.readFilter value.toList
  | none => []

/-! ## All of them -/

/-- The variables that settings are read from. -/
def keys : List String :=
  ["API_LISTEN_ADDR", "CACHE_SIZE", "DATABASE_URL", "ENABLE_CONTAINER_PROFILING",
    "ENABLE_RELEVANT_CVES", "MY_CONTAINER_ID", "NODE_NAME", "RETAINED_CONTAINERS", "SBOM_COMMAND",
    "SELF_POD_MARKER", "SNIFFER_TIME", "TRACER_INCLUDE_HOST", "TRACER_MAIN_THREAD_ONLY",
    "TRACER_PATH", "TRACER_SYSCALL_FILTER", "VULN_COMMAND"]

def ofVariables (source : Variables) : Except SettingsError Settings := do
  let windowMinutes ← readOr readWindow source "SNIFFER_TIME" 5
  let selfContainer ← readOr readContainer source "MY_CONTAINER_ID" none
  let nodeName ← required source "NODE_NAME"
  let relevantCves ← readOr readBool source "ENABLE_RELEVANT_CVES" true
  let containerProfiling ← readOr readBool source "ENABLE_CONTAINER_PROFILING" true
  let cacheSize ← readOr readNumber source "CACHE_SIZE" 10
  let includeHost ← readOr readBool source "TRACER_INCLUDE_HOST" false
  let mainThreadOnly ← readOr readBool source "TRACER_MAIN_THREAD_ONLY" false
  let databaseUrl ← required source "DATABASE_URL"
  let listenAddress ←
    readAs readAddress "API_LISTEN_ADDR" (valueOr source "API_LISTEN_ADDR" "0.0.0.0:3000")
  let retainedContainers ← readOr readNumber source "RETAINED_CONTAINERS" 128
  return {
    nodeName := nodeName
    windowMinutes := windowMinutes
    selfContainer := selfContainer
    selfPodMarker := valueOr source "SELF_POD_MARKER" "creo-sniffer"
    services := ⟨relevantCves, containerProfiling⟩
    cacheSize := cacheSize
    tracer := {
      program := valueOr source "TRACER_PATH" "/usr/local/bin/sniffer-engine"
      filter := syscallFilter source
      includeHost := includeHost
      mainThreadOnly := mainThreadOnly }
    sbomProgram := valueOr source "SBOM_COMMAND" "syft"
    vulnerabilityProgram := valueOr source "VULN_COMMAND" "grype"
    databaseUrl := databaseUrl
    listenAddress := listenAddress
    retainedContainers := retainedContainers }

end Settings

end Observatory
