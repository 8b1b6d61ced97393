import Observatory.Vulnerability
import Mathlib.Data.List.Basic

/-! # The weaknesses that are in use

Files choose packages, and the packages that are left choose weaknesses by name and version. Packages may be
listed twice, or share name and version and own different files, so what one filter drops another package may
bring back. Main statement: the two filters together keep, in order and as often as they are reported, the
weaknesses of which some package of that name and version owns a used file; more files keep more of them; and
neither the order of the filters on packages nor their repetition matters.
-/

namespace Observatory

variable {report : VulnerabilityReport} {sbom other : Sbom} {used more : List String} {package : Package}
  {vulnerability : Vulnerability}

/-- The package is the one with the weakness. -/
def Package.Has (package : Package) (vulnerability : Vulnerability) : Prop :=
  (package.name, package.version) = (vulnerability.package, vulnerability.version)

instance (package : Package) (vulnerability : Vulnerability) : Decidable (package.Has vulnerability) :=
  inferInstanceAs (Decidable (_ = _))

/-- The package owns one of the files. -/
def Package.Owns (package : Package) (used : List String) : Prop :=
  ∃ file ∈ package.files, file ∈ used

instance (package : Package) (used : List String) : Decidable (package.Owns used) :=
  inferInstanceAs (Decidable (∃ file ∈ package.files, file ∈ used))

def Sbom.Lists (sbom : Sbom) (vulnerability : Vulnerability) : Prop :=
  ∃ package ∈ sbom.packages, package.Has vulnerability

instance (sbom : Sbom) (vulnerability : Vulnerability) : Decidable (sbom.Lists vulnerability) :=
  inferInstanceAs (Decidable (∃ package ∈ sbom.packages, package.Has vulnerability))

/-- Some package with the weakness owns a used file. -/
def Vulnerability.InUse (vulnerability : Vulnerability) (sbom : Sbom) (used : List String) : Prop :=
  ∃ package ∈ sbom.packages, package.Has vulnerability ∧ package.Owns used

instance (vulnerability : Vulnerability) (sbom : Sbom) (used : List String) :
    Decidable (vulnerability.InUse sbom used) :=
  inferInstanceAs (Decidable (∃ package ∈ sbom.packages, package.Has vulnerability ∧ package.Owns used))

theorem Vulnerability.InUse.lists (inUse : vulnerability.InUse sbom used) : sbom.Lists vulnerability := by
  obtain ⟨package, listed, has, -⟩ := inUse
  exact ⟨package, listed, has⟩

theorem Vulnerability.InUse.mono (inUse : vulnerability.InUse sbom used) (subset : used ⊆ more) :
    vulnerability.InUse sbom more := by
  obtain ⟨package, listed, has, file, owned, member⟩ := inUse
  exact ⟨package, listed, has, file, owned, subset member⟩

/-! ## The filters -/

namespace Sbom

theorem retainFiles_eq (sbom : Sbom) (used : List String) :
    sbom.retainFiles used = ⟨sbom.packages.filter fun package => decide (package.Owns used)⟩ := by
  refine congrArg Sbom.mk (List.filter_congr fun package _ => ?_)
  rw [Bool.eq_iff_iff, List.any_eq_true, decide_eq_true_iff]
  simp only [decide_eq_true_iff, Package.Owns]

/-- Files are asked for twice. -/
theorem retainFiles_retainFiles (sbom : Sbom) (used more : List String) :
    (sbom.retainFiles used).retainFiles more =
      ⟨sbom.packages.filter fun package => decide (package.Owns used ∧ package.Owns more)⟩ := by
  rw [retainFiles_eq, retainFiles_eq, List.filter_filter]
  refine congrArg Sbom.mk (List.filter_congr fun package _ => ?_)
  rw [Bool.decide_and, Bool.and_comm]

theorem lists_retainFiles_iff : (sbom.retainFiles used).Lists vulnerability ↔ vulnerability.InUse sbom used := by
  simp only [Lists, retainFiles_eq, List.mem_filter, decide_eq_true_iff, Vulnerability.InUse]
  constructor
  · rintro ⟨package, ⟨listed, owns⟩, has⟩
    exact ⟨package, listed, has, owns⟩
  · rintro ⟨package, listed, has, owns⟩
    exact ⟨package, ⟨listed, owns⟩, has⟩

end Sbom

namespace VulnerabilityReport

theorem relevantTo_eq (report : VulnerabilityReport) (sbom : Sbom) :
    report.relevantTo sbom =
      ⟨report.vulnerabilities.filter fun vulnerability => decide (sbom.Lists vulnerability)⟩ := by
  refine congrArg VulnerabilityReport.mk (List.filter_congr fun vulnerability _ => ?_)
  rw [Bool.eq_iff_iff, List.any_eq_true, decide_eq_true_iff]
  simp only [Bool.and_eq_true, beq_iff_eq, Sbom.Lists, Package.Has, Prod.mk.injEq]

/-- A document that lists more makes more of a report relevant. -/
theorem sublist_relevantTo (lists : ∀ vulnerability, sbom.Lists vulnerability → other.Lists vulnerability) :
    (report.relevantTo sbom).vulnerabilities.Sublist (report.relevantTo other).vulnerabilities := by
  rw [relevantTo_eq, relevantTo_eq]
  refine List.monotone_filter_right _ fun vulnerability listed => ?_
  rw [decide_eq_true_iff] at listed ⊢
  exact lists vulnerability listed

/-- What is left of a report are the weaknesses in use, in their order and as often as reported. More files leave
more of it, and repeating or exchanging filters changes nothing. -/
theorem relevantTo_retainFiles (report : VulnerabilityReport) (sbom : Sbom) (used more : List String) :
    (report.relevantTo (sbom.retainFiles used)).vulnerabilities =
        report.vulnerabilities.filter (fun vulnerability => decide (vulnerability.InUse sbom used)) ∧
      (report.relevantTo (sbom.retainFiles used)).vulnerabilities.Sublist (report.relevantTo sbom).vulnerabilities ∧
      (used ⊆ more → (report.relevantTo (sbom.retainFiles used)).vulnerabilities.Sublist
        (report.relevantTo (sbom.retainFiles more)).vulnerabilities) ∧
      (sbom.retainFiles used).retainFiles used = sbom.retainFiles used ∧
      (report.relevantTo sbom).relevantTo sbom = report.relevantTo sbom ∧
      (sbom.retainFiles used).retainFiles more = (sbom.retainFiles more).retainFiles used := by
  refine ⟨?_, ?_, fun subset => ?_, ?_, ?_, ?_⟩
  · simp only [relevantTo_eq, Sbom.lists_retainFiles_iff]
  · exact sublist_relevantTo fun _ listed => (Sbom.lists_retainFiles_iff.mp listed).lists
  · refine sublist_relevantTo fun _ listed => ?_
    rw [Sbom.lists_retainFiles_iff] at listed ⊢
    exact listed.mono subset
  · rw [Sbom.retainFiles_retainFiles, Sbom.retainFiles_eq]
    simp only [and_self]
  · simp only [relevantTo_eq, List.filter_filter, Bool.and_self]
  · simp only [Sbom.retainFiles_retainFiles, and_comm]

private def twins : Sbom :=
  ⟨[⟨"ssl", "3.0", ["/lib/ssl"]⟩, ⟨"ssl", "3.0", ["/bin/ssl"]⟩, ⟨"zip", "1.2", []⟩]⟩

private def scanned : VulnerabilityReport :=
  ⟨[⟨"A", "high", "ssl", "3.0"⟩, ⟨"B", "low", "zip", "1.2"⟩, ⟨"A", "high", "ssl", "3.0"⟩]⟩

/-- The used file belongs to the second of two packages that are called the same, and the weakness of the two is
reported twice. -/
theorem relevantTo_retainFiles_of_twins :
    ["/bin/ssl"] ⊆ ["/bin/zip", "/bin/ssl"] ∧
      (scanned.relevantTo (twins.retainFiles ["/bin/ssl"])).vulnerabilities =
        [⟨"A", "high", "ssl", "3.0"⟩, ⟨"A", "high", "ssl", "3.0"⟩] ∧
      (scanned.relevantTo (twins.retainFiles ["/bin/ssl"])).vulnerabilities.Sublist
        (scanned.relevantTo (twins.retainFiles ["/bin/zip", "/bin/ssl"])).vulnerabilities := by
  have subset : ["/bin/ssl"] ⊆ ["/bin/zip", "/bin/ssl"] := by simp
  obtain ⟨listed, -, grows, -⟩ := relevantTo_retainFiles scanned twins ["/bin/ssl"] ["/bin/zip", "/bin/ssl"]
  refine ⟨subset, listed.trans ?_, grows subset⟩
  decide +kernel

end VulnerabilityReport

end Observatory
