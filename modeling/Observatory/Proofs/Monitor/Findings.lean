import Observatory.Monitor.Step

/-! # What an observation comes to know

The artifacts of an observation rest on three results: that of its aggregation and those of its two scans. What each
service makes of them is said here once more, as rules. Main statement: an observation derives just what the rules give
from the results that it has, and a result that comes later takes nothing back.
-/

namespace Observatory

/-- The results of an observation, as far as it has them. -/
structure Findings where
  aggregation : Option (Except String Aggregation.Report)
  sbom : Option (Except String Sbom)
  vulnerabilities : Option (Except String VulnerabilityReport)

namespace Findings

variable {findings : Findings} {resourceName : String} {service : Service} {derivation : Except String Artifact}

def none : Findings := ⟨.none, .none, .none⟩

/-- Of two results for the same question the first one stands. -/
def or (findings later : Findings) : Findings where
  aggregation := findings.aggregation.or later.aggregation
  sbom := findings.sbom.or later.sbom
  vulnerabilities := findings.vulnerabilities.or later.vulnerabilities

@[simp] theorem or_none (findings : Findings) : findings.or none = findings := by
  simp [or, none]

/-- What a service makes of the results: its artifact under this name, with the payload of the service and nothing
else, or the reason why there is none. -/
inductive Yields (findings : Findings) (resourceName : String) : Service → Except String Artifact → Prop
  /-- The profile allows the system calls that were seen. -/
  | profile (report : Aggregation.Report) (aggregated : findings.aggregation = some (.ok report)) :
      Yields findings resourceName .containerProfiling
        (.ok ⟨resourceName, .containerProfiling, .none, some (.allowOnly report.syscalls)⟩)
  /-- Of the weaknesses those are kept that concern a package with a file that was seen. -/
  | relevant (report : Aggregation.Report) (sbom : Sbom) (scan : VulnerabilityReport)
      (aggregated : findings.aggregation = some (.ok report)) (listed : findings.sbom = some (.ok sbom))
      (scanned : findings.vulnerabilities = some (.ok scan)) :
      Yields findings resourceName .relevantCves
        (.ok ⟨resourceName, .relevantCves, some (scan.relevantTo (sbom.retainFiles report.files)), .none⟩)
  /-- Without a report no service has an artifact. -/
  | unaggregated (service : Service) (reason : String) (failed : findings.aggregation = some (.error reason)) :
      Yields findings resourceName service (.error (Observation.phaseFailed reason))
  | unlisted (report : Aggregation.Report) (reason : String) (aggregated : findings.aggregation = some (.ok report))
      (failed : findings.sbom = some (.error reason)) :
      Yields findings resourceName .relevantCves (.error (Observation.phaseFailed reason))
  | unscanned (report : Aggregation.Report) (sbom : Sbom) (reason : String)
      (aggregated : findings.aggregation = some (.ok report)) (listed : findings.sbom = some (.ok sbom))
      (failed : findings.vulnerabilities = some (.error reason)) :
      Yields findings resourceName .relevantCves (.error (Observation.phaseFailed reason))

/-- What later results bring changes nothing of what has been derived. -/
theorem Yields.or (yields : findings.Yields resourceName service derivation) (later : Findings) :
    (findings.or later).Yields resourceName service derivation := by
  have stands {α : Type} {result : Option α} {value : α} (known : result = some value) (later : Option α) :
      result.or later = some value := by
    rw [known, Option.some_or]
  cases yields with
  | profile report aggregated => exact .profile report (stands aggregated _)
  | relevant report sbom scan aggregated listed scanned =>
    exact .relevant report sbom scan (stands aggregated _) (stands listed _) (stands scanned _)
  | unaggregated service reason failed => exact .unaggregated service reason (stands failed _)
  | unlisted report reason aggregated failed => exact .unlisted report reason (stands aggregated _) (stands failed _)
  | unscanned report sbom reason aggregated listed failed =>
    exact .unscanned report sbom reason (stands aggregated _) (stands listed _) (stands failed _)

/-- An artifact is marked with the service that it is for. -/
theorem Yields.service_eq {artifact : Artifact} (yields : findings.Yields resourceName service (.ok artifact)) :
    artifact.service = service := by
  cases yields <;> rfl

end Findings

namespace Observation

variable {observation : Observation} {service : Service}

def findings (observation : Observation) : Findings where
  aggregation := observation.aggregation.result
  sbom := observation.sbom.result
  vulnerabilities := observation.vulnerabilities.result

/-- What an action lets an observation know. -/
def finding (observation : Observation) : Action → Findings
  | .report serial =>
      if serial = observation.serial then
        ⟨observation.aggregator.outcome?.map (·.mapError Aggregation.Error.message), .none, .none⟩
      else .none
  | .sbomReady serial result => if serial = observation.serial then ⟨.none, some result, .none⟩ else .none
  | .vulnerabilitiesReady serial result => if serial = observation.serial then ⟨.none, .none, some result⟩ else .none
  | _ => .none

theorem yields_of_derive? {derivation : Except String Derived}
    (derives : observation.derive? service = some derivation) :
    observation.findings.Yields observation.resourceName service (derivation.map (·.artifact)) := by
  unfold derive? at derives
  split at derives
  · contradiction
  · rename_i reason failed
    obtain rfl := Option.some.inj derives
    exact .unaggregated service reason failed
  · rename_i report aggregated
    cases service with
    | containerProfiling =>
      obtain rfl := Option.some.inj derives
      exact .profile report aggregated
    | relevantCves =>
      simp only at derives
      split at derives
      · contradiction
      · rename_i reason failed
        obtain rfl := Option.some.inj derives
        exact .unlisted report reason aggregated failed
      · rename_i sbom listed
        split at derives
        · contradiction
        · rename_i reason failed
          obtain rfl := Option.some.inj derives
          exact .unscanned report sbom reason aggregated listed failed
        · rename_i scan scanned
          obtain rfl := Option.some.inj derives
          exact .relevant report sbom scan aggregated listed scanned

end Observation

end Observatory
