import Observatory.Artifact
import Observatory.Proofs.Document.Extension
import Observatory.Proofs.Document.Writing

/-! # Stored values

Profiles, vulnerability reports and bills of materials are kept as documents. Main statement: each of them is read from
its document again, also when the members of any object in it stand in another order and there are foreign ones among
them, and from the bytes that are written for such a document.
-/

namespace Observatory

namespace Document

open Text.Utf8 (encode)

variable {α : Type} {toDocument : α → Document} {ofDocument? : Document → Option α} {value : α} {name : String}
  {fields : List (String × Document)}

/-- Values are read from their documents and from all that extend these. -/
def ReadsBack (toDocument : α → Document) (ofDocument? : Document → Option α) : Prop :=
  ∀ value document, Extends (toDocument value) document → ofDocument? document = some value

theorem readsBack_text : ReadsBack text text? := by
  intro value document extended
  cases extended
  rfl

/-- A list is read back if its values are. -/
theorem ReadsBack.list (readsBack : ReadsBack toDocument ofDocument?) :
    ReadsBack (fun values => .array (values.map toDocument)) (·.list? ofDocument?) := by
  intro values document extended
  cases extended with
  | @array _ others each =>
    change others.mapM ofDocument? = some values
    induction values generalizing others with
    | nil =>
      cases each
      rfl
    | cons value values ih =>
      cases each with
      | cons first later => simp [readsBack value _ first, ih later]

/-- A field that is there is read back, also if its document was extended. -/
theorem ReadsBack.required? (readsBack : ReadsBack toDocument ofDocument?)
    (found : ∃ later, fields.lookup name = some later ∧ Extends (toDocument value) later) :
    Document.required? fields name ofDocument? = some value := by
  obtain ⟨later, isThere, extended⟩ := found
  rw [Document.required?, isThere, Option.bind_some, readsBack value later extended]

/-- So is one with a default, which is then not needed. -/
theorem ReadsBack.defaulted? (readsBack : ReadsBack toDocument ofDocument?)
    (found : ∃ later, fields.lookup name = some later ∧ Extends (toDocument value) later) (fallback : α) :
    Document.defaulted? fields name fallback ofDocument? = some value := by
  obtain ⟨later, isThere, extended⟩ := found
  rw [Document.defaulted?, isThere]
  exact readsBack value later extended

/-! ## Written values -/

/-- The value is read from its document and from all that extend it, as they are and from the bytes written for them. -/
structure Recovers (toDocument : α → Document) (ofDocument? : Document → Option α) (value : α) : Prop where
  ofDocument : ofDocument? (toDocument value) = some value
  ofExtended : ∀ document, Extends (toDocument value) document → ofDocument? document = some value
  ofBytes : (read? (encode (toDocument value).write)).bind ofDocument? = some value
  ofExtendedBytes : ∀ document, Extends (toDocument value) document → Numeric document →
    (read? (encode document.write)).bind ofDocument? = some value

/-- What is read back from its document is also read back from the text of it. -/
theorem ReadsBack.recovers (readsBack : ReadsBack toDocument ofDocument?) (numeric : Numeric (toDocument value)) :
    Recovers toDocument ofDocument? value := by
  have bytes : ∀ document, Extends (toDocument value) document → Numeric document →
      (read? (encode document.write)).bind ofDocument? = some value := by
    intro document extended numeric
    rw [numeric.read?_write, Option.bind_some, readsBack value document extended]
  constructor
  · exact readsBack value _ (.refl _)
  · exact readsBack value
  · exact bytes _ (.refl _) numeric
  · exact bytes

/-- Every number in a record is written as one if this holds of its fields. -/
theorem numeric_record (each : ∀ field ∈ fields, Numeric field.2) : Numeric (.record fields) := by
  refine .object fun member isMember => ?_
  obtain ⟨field, isField, rfl⟩ := List.mem_map.mp isMember
  exact each field isField

theorem numeric_list (each : ∀ value, Numeric (toDocument value)) (values : List α) :
    Numeric (.array (values.map toDocument)) := by
  refine .array fun item member => ?_
  obtain ⟨value, -, rfl⟩ := List.mem_map.mp member
  exact each value

theorem numeric_text (value : String) : Numeric (.text value) :=
  .string value

end Document

open Document

/-! ## What is stored -/

theorem SyscallProfile.readsBack_rule : ReadsBack ruleDocument rule? := by
  intro rule document extended
  obtain ⟨fields, isFields, found⟩ := extended.exists_fields? (by simp)
  have names := readsBack_text.list.required? (found "names" (.array (rule.names.map .text)) (by simp))
  have action := readsBack_text.required? (found "action" (.text rule.action) (by simp))
  simp only [List.map_cons, List.map_nil] at isFields
  simp [rule?, isFields, names, action]

/-- A profile is read back from its document. -/
theorem SyscallProfile.readsBack : ReadsBack toDocument ofDocument? := by
  intro profile document extended
  obtain ⟨fields, isFields, found⟩ := extended.exists_fields? (by simp)
  have action := readsBack_text.required? (found "defaultAction" (.text profile.defaultAction) (by simp))
  have rules := readsBack_rule.list.required?
    (found "syscalls" (.array (profile.syscalls.map ruleDocument)) (by simp))
  simp only [List.map_cons, List.map_nil] at isFields
  simp [ofDocument?, isFields, action, rules]

theorem VulnerabilityReport.readsBack_vulnerability : ReadsBack vulnerabilityDocument vulnerability? := by
  intro vulnerability document extended
  obtain ⟨fields, isFields, found⟩ := extended.exists_fields? (by simp)
  have id := readsBack_text.required? (found "id" (.text vulnerability.id) (by simp))
  have severity := readsBack_text.required? (found "severity" (.text vulnerability.severity) (by simp))
  have package := readsBack_text.required? (found "package" (.text vulnerability.package) (by simp))
  have version := readsBack_text.required? (found "version" (.text vulnerability.version) (by simp))
  simp only [List.map_cons, List.map_nil] at isFields
  simp [vulnerability?, isFields, id, severity, package, version]

/-- A report is read back from its document. -/
theorem VulnerabilityReport.readsBack : ReadsBack toDocument ofDocument? := by
  intro report document extended
  obtain ⟨fields, isFields, found⟩ := extended.exists_fields? (by simp)
  have vulnerabilities := readsBack_vulnerability.list.required?
    (found "vulnerabilities" (.array (report.vulnerabilities.map vulnerabilityDocument)) (by simp))
  simp only [List.map_cons, List.map_nil] at isFields
  simp [ofDocument?, isFields, vulnerabilities]

theorem Sbom.readsBack_package : ReadsBack packageDocument package? := by
  intro package document extended
  obtain ⟨fields, isFields, found⟩ := extended.exists_fields? (by simp)
  have name := readsBack_text.required? (found "name" (.text package.name) (by simp))
  have version := readsBack_text.required? (found "version" (.text package.version) (by simp))
  have files := readsBack_text.list.defaulted? (found "files" (.array (package.files.map .text)) (by simp)) []
  simp only [List.map_cons, List.map_nil] at isFields
  simp [package?, isFields, name, version, files]

/-- A list of packages is read back from its document. -/
theorem Sbom.readsBack : ReadsBack toDocument ofDocument? := by
  intro sbom document extended
  obtain ⟨fields, isFields, found⟩ := extended.exists_fields? (by simp)
  have packages := readsBack_package.list.required?
    (found "packages" (.array (sbom.packages.map packageDocument)) (by simp))
  simp only [List.map_cons, List.map_nil] at isFields
  simp [ofDocument?, isFields, packages]

theorem SyscallProfile.numeric_rule (rule : SyscallRule) : Numeric (ruleDocument rule) :=
  numeric_record (by simp [numeric_text, numeric_list numeric_text])

/-- Every number in the document of a profile is written as one. -/
theorem SyscallProfile.numeric (profile : SyscallProfile) : Numeric profile.toDocument :=
  numeric_record (by simp [numeric_text, numeric_list numeric_rule])

theorem VulnerabilityReport.numeric_vulnerability (vulnerability : Vulnerability) :
    Numeric (vulnerabilityDocument vulnerability) :=
  numeric_record (by simp [numeric_text])

theorem VulnerabilityReport.numeric (report : VulnerabilityReport) : Numeric report.toDocument :=
  numeric_record (by simp [numeric_list numeric_vulnerability])

theorem Sbom.numeric_package (package : Package) : Numeric (packageDocument package) :=
  numeric_record (by simp [numeric_text, numeric_list numeric_text])

theorem Sbom.numeric (sbom : Sbom) : Numeric sbom.toDocument :=
  numeric_record (by simp [numeric_list numeric_package])

/-- Whatever is stored is read again. -/
theorem stored_recovered (profile : SyscallProfile) (report : VulnerabilityReport) (sbom : Sbom) :
    Recovers SyscallProfile.toDocument SyscallProfile.ofDocument? profile ∧
      Recovers VulnerabilityReport.toDocument VulnerabilityReport.ofDocument? report ∧
      Recovers Sbom.toDocument Sbom.ofDocument? sbom :=
  ⟨SyscallProfile.readsBack.recovers profile.numeric, VulnerabilityReport.readsBack.recovers report.numeric,
    Sbom.readsBack.recovers sbom.numeric⟩

private def installed : Sbom :=
  ⟨[⟨"curl", "8.5", ["/usr/bin/curl"]⟩]⟩

/-- The only package, its members in reverse and behind one that is not known and cannot be read as a text. -/
private def annotatedPackage : Document :=
  .record
    [("note", .string none), ("files", .array [.text "/usr/bin/curl"]), ("version", .text "8.5"),
      ("name", .text "curl")]

/-- Before the packages there is the name of a field of theirs, twice. -/
private def annotated : Document :=
  .record [("name", .null), ("name", .number ['7']), ("packages", .array [annotatedPackage])]

/-- A list of packages is recovered although someone has added fields to it. -/
theorem stored_recovered_of_annotated :
    Extends installed.toDocument annotated ∧ Numeric annotated ∧ Sbom.ofDocument? annotated = some installed ∧
      (read? (Text.Utf8.encode annotated.write)).bind Sbom.ofDocument? = some installed := by
  have package : Extends (Sbom.packageDocument ⟨"curl", "8.5", ["/usr/bin/curl"]⟩) annotatedPackage :=
    @Extends.object _ _ [.text "curl", .text "8.5", .array [.text "/usr/bin/curl"]] [("note", .string none)]
      (List.forall₂_same.mpr fun value _ => .refl value) (by simp) (List.perm_reverse.mp (.of_eq rfl))
  have extended : Extends installed.toDocument annotated :=
    @Extends.object _ _ [.array [annotatedPackage]] [("name", .number ['7']), ("name", .null)]
      (.cons (.array (.cons package .nil)) .nil) (by simp) (List.perm_reverse.mp (.of_eq rfl))
  have seven : IsNumeral ['7'] :=
    ⟨[], by simp, ['7'], [], [], .inr ⟨⟨by simp, List.forall_mem_singleton.mpr (by decide)⟩, by decide⟩,
      .inl rfl, .inl rfl, rfl⟩
  have files : Numeric (.array [.text "/usr/bin/curl"]) := .array (List.forall_mem_singleton.mpr (numeric_text _))
  have numericPackage : Numeric annotatedPackage := numeric_record (by simp [numeric_text, Numeric.string, files])
  have packages : Numeric (.array [annotatedPackage]) := .array (List.forall_mem_singleton.mpr numericPackage)
  have numeric : Numeric annotated := numeric_record (by simp [Numeric.null, Numeric.number seven, packages])
  obtain ⟨-, -, recovers⟩ := stored_recovered ⟨"", []⟩ ⟨[]⟩ installed
  exact ⟨extended, numeric, recovers.ofExtended _ extended, recovers.ofExtendedBytes _ extended numeric⟩

end Observatory
