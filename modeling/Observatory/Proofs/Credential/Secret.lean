import Observatory.Credential.Secret
import Observatory.Proofs.Document.Reading
import Observatory.Proofs.Sorted
import Observatory.Proofs.Text.ByteOrder
import Mathlib.Data.List.Forall2

/-! # Credentials of a secret

A secret holds one map of registries, in whichever layout it is written. Main statement: both layouts of one map
give the same credentials, one for each registry in byte order, with the last entry of a repeated registry, and
the token only where a user name or a password is missing. One entry that cannot be read leaves nothing.
-/

namespace Observatory.Document

variable {α : Type} {read : Document → Option α} {members : List (Option String × Document)}
  {entries : List (String × α)} {name : String} {value : Document}

/-! ## Entries of a map -/

/-- The member's name can be read, and so can its value. -/
def ReadsAs (read : Document → Option α) (member : Option String × Document) (entry : String × α) : Prop :=
  member.1 = some entry.1 ∧ read member.2 = some entry.2

/-- The value counts for the name: it is the last one that the name has. -/
def IsLast (members : List (Option String × Document)) (name : String) (value : Document) : Prop :=
  ∃ before after, members = before ++ (some name, value) :: after ∧ ∀ member ∈ after, member.1 ≠ some name

theorem entries?_cons (member : Option String × Document) (members : List (Option String × Document)) :
    entries? read (.object (member :: members)) =
      member.1.bind fun name => (read member.2).bind fun value =>
        (entries? read (.object members)).map fun entries => (name, value) :: entries := by
  obtain ⟨name, value⟩ := member
  simp only [entries?, List.mapM_cons]
  cases name with
  | none => rfl
  | some name =>
    cases read value with
    | none => rfl
    | some value =>
      simp only [Option.map_eq_bind]
      rfl

/-- The entries of a map are read if all of its members are. -/
theorem entries?_eq_some_iff :
    entries? read (.object members) = some entries ↔ List.Forall₂ (ReadsAs read) members entries := by
  induction members generalizing entries with
  | nil => simp [entries?, eq_comm]
  | cons member rest ih =>
    rw [entries?_cons]
    constructor
    · intro found
      obtain ⟨name, named, found⟩ := Option.bind_eq_some_iff.mp found
      obtain ⟨value, valued, found⟩ := Option.bind_eq_some_iff.mp found
      obtain ⟨more, foundMore, rfl⟩ := Option.map_eq_some_iff.mp found
      exact .cons ⟨named, valued⟩ (ih.mp foundMore)
    · rintro (_ | ⟨⟨named, valued⟩, others⟩)
      simp [named, valued, ih.mpr others]

/-- A map can be read exactly if all of its members can. -/
theorem isSome_entries?_iff :
    (entries? read (.object members)).isSome ↔ ∀ member ∈ members, ∃ entry, ReadsAs read member entry := by
  rw [Option.isSome_iff_exists]
  simp only [entries?_eq_some_iff]
  induction members with
  | nil => simp
  | cons member rest ih =>
    rw [List.forall_mem_cons, ← ih]
    constructor
    · rintro ⟨_, _ | ⟨first, others⟩⟩
      exact ⟨⟨_, first⟩, _, others⟩
    · rintro ⟨⟨entry, first⟩, entries, others⟩
      exact ⟨entry :: entries, .cons first others⟩

/-- Of a name that is repeated, the last value counts. -/
theorem isLast_iff : IsLast members name value ↔ members.reverse.lookup (some name) = some value := by
  rw [List.lookup_eq_some_iff]
  constructor
  · rintro ⟨before, after, rfl, later⟩
    refine ⟨after.reverse, before.reverse, by simp, fun member inAfter => ?_⟩
    have differs := later member (List.mem_reverse.mp inAfter)
    simpa using differs.symm
  · rintro ⟨before, after, split, earlier⟩
    refine ⟨after.reverse, before.reverse, ?_, fun member inBefore => ?_⟩
    · simpa using congrArg List.reverse split
    · have differs := earlier member (List.mem_reverse.mp inBefore)
      simp at differs
      exact fun same => differs same.symm

theorem lookup_entries (reads : List.Forall₂ (ReadsAs read) members entries) (name : String) :
    entries.lookup name = (members.lookup (some name)).bind read := by
  induction reads with
  | nil => rfl
  | @cons member entry rest others first _ ih =>
    obtain ⟨memberName, memberValue⟩ := member
    obtain ⟨entryName, entryValue⟩ := entry
    obtain ⟨rfl, valued⟩ := first
    by_cases same : name = entryName
    · subst same
      simpa using valued.symm
    · have differs : (some name == some entryName) = false := by simpa using same
      have differsToo : (name == entryName) = false := by simpa using same
      simpa [List.lookup_cons, differs, differsToo] using ih

/-- The last entry of a name is its last value, read. -/
theorem lookup_reverse_entries (reads : List.Forall₂ (ReadsAs read) members entries) (name : String) {entry : α} :
    entries.reverse.lookup name = some entry ↔ ∃ value, IsLast members name value ∧ read value = some entry := by
  rw [lookup_entries (List.rel_reverse reads), Option.bind_eq_some_iff]
  simp only [isLast_iff]

end Observatory.Document

namespace Observatory.Credential

open Document (IsLast ReadsAs Padded ValueText WellFormed memberText quotedText)
open Text.Utf8 (encode)

variable {data : SecretData} {credential : Credential} {logins : List (String × String × String × String)}

/-! ## Credentials of a map -/

/-- The token is kept where a user name or a password is missing. -/
theorem ofEntry_eq (registry username password token : String) :
    ofEntry registry username password token =
      ⟨registry, username, password, if username = "" ∨ password = "" then token else ""⟩ := by
  rw [ofEntry]
  by_cases username = "" <;> by_cases password = "" <;> simp_all

/-- A login becomes a credential, with its token only where a name or a password is missing. -/
theorem mem_ofLogins :
    credential ∈ ofLogins logins ↔ ∃ token,
      logins.reverse.lookup credential.registry = some (credential.username, credential.password, token) ∧
        credential.auth = if credential.username = "" ∨ credential.password = "" then token else "" := by
  simp only [ofLogins, List.mem_filterMap, Sorted.mem_ofList, Option.map_eq_some_iff, ofEntry_eq]
  constructor
  · rintro ⟨registry, -, ⟨username, password, token⟩, found, rfl⟩
    exact ⟨token, found, rfl⟩
  · rintro ⟨token, found, kept⟩
    refine ⟨credential.registry, ?_, (credential.username, credential.password, token), found, by rw [← kept]⟩
    obtain ⟨before, after, split, -⟩ := List.lookup_eq_some_iff.mp found
    have member : (credential.registry, credential.username, credential.password, token) ∈ logins.reverse := by
      simp [split]
    exact List.mem_map.mpr ⟨_, List.mem_reverse.mp member, rfl⟩

/-- Credentials are sorted by their registry. -/
theorem pairwise_ofLogins (logins : List (String × String × String × String)) :
    (ofLogins logins).Pairwise fun credential other =>
      encode credential.registry.toList < encode other.registry.toList := by
  rw [ofLogins, List.pairwise_filterMap]
  refine (Text.Utf8.pairwise_encode_lt (Sorted.pairwise_ofList _)).imp ?_
  intro registry other lower credential found otherCredential otherFound
  obtain ⟨login, -, rfl⟩ := Option.map_eq_some_iff.mp found
  obtain ⟨otherLogin, -, rfl⟩ := Option.map_eq_some_iff.mp otherFound
  exact lower

/-! ## The map of a secret -/

/-- The map of registries that a secret holds, in the layout that counts. -/
def registries? (data : SecretData) : Option Document :=
  match data.lookup ".dockerconfigjson" with
  | some bytes =>
      (Document.read? bytes).bind fun config => (config.fields? ["auths"]).bind fun fields => fields.lookup "auths"
  | none => (data.lookup ".dockercfg").bind Document.read?

theorem getD_ofConfig? (config : Document) :
    (ofConfig? config).getD [] =
      (((config.fields? ["auths"]).bind fun fields => fields.lookup "auths").bind ofRegistries?).getD [] := by
  rw [ofConfig?]
  cases config.fields? ["auths"] with
  | none => rfl
  | some fields => cases found : fields.lookup "auths" <;> simp [Document.defaulted?, found]

/-- A secret is read through the map of registries that it holds, in either form. -/
theorem ofSecret_eq (data : SecretData) : ofSecret data = ((registries? data).bind ofRegistries?).getD [] := by
  unfold ofSecret registries?
  cases data.lookup ".dockerconfigjson" with
  | none => cases data.lookup ".dockercfg" <;> rfl
  | some bytes =>
    dsimp only
    cases Document.read? bytes with
    | none => rfl
    | some config => exact getD_ofConfig? config

theorem ofSecret_of_entries? {document : Document} (held : registries? data = some document)
    (read : document.entries? login? = some logins) : ofSecret data = ofLogins logins := by
  rw [ofSecret_eq, held, Option.bind_some, ofRegistries?, read]
  rfl

theorem ofSecret_of_unread (unread : ∀ document, registries? data = some document → document.entries? login? = none) :
    ofSecret data = [] := by
  rw [ofSecret_eq]
  cases held : registries? data with
  | none => rfl
  | some document =>
    rw [Option.bind_some, ofRegistries?, unread document held]
    rfl

/-- Whatever a secret holds, its credentials are those of some map. -/
theorem exists_ofLogins (data : SecretData) : ∃ logins, ofSecret data = ofLogins logins := by
  by_cases unread : ∀ document, registries? data = some document → document.entries? login? = none
  · exact ⟨[], ofSecret_of_unread unread⟩
  · push Not at unread
    obtain ⟨document, held, read⟩ := unread
    obtain ⟨logins, read⟩ := Option.ne_none_iff_exists'.mp read
    exact ⟨logins, ofSecret_of_entries? held read⟩

/-- Which credentials a secret yields, if all members of its map can be read. -/
theorem mem_ofSecret {members : List (Option String × Document)} (held : registries? data = some (.object members))
    (readable : ∀ member ∈ members, ∃ entry, ReadsAs login? member entry) :
    credential ∈ ofSecret data ↔ ∃ value token, IsLast members credential.registry value ∧
      login? value = some (credential.username, credential.password, token) ∧
      credential.auth = if credential.username = "" ∨ credential.password = "" then token else "" := by
  obtain ⟨logins, read⟩ := Option.isSome_iff_exists.mp (Document.isSome_entries?_iff.mpr readable)
  rw [ofSecret_of_entries? held read, mem_ofLogins]
  simp only [Document.lookup_reverse_entries (Document.entries?_eq_some_iff.mp read)]
  constructor
  · rintro ⟨token, ⟨value, last, login⟩, kept⟩
    exact ⟨value, token, last, login, kept⟩
  · rintro ⟨value, token, last, login, kept⟩
    exact ⟨token, ⟨value, last, login⟩, kept⟩

/-- No credential has both a login and a token. -/
theorem incomplete_of_mem_ofSecret (member : credential ∈ ofSecret data) :
    credential.username = "" ∨ credential.password = "" ∨ credential.auth = "" := by
  obtain ⟨logins, same⟩ := exists_ofLogins data
  rw [same] at member
  obtain ⟨token, -, kept⟩ := mem_ofLogins.mp member
  by_cases missing : credential.username = "" ∨ credential.password = ""
  · exact or_assoc.mp (.inl missing)
  · exact .inr (.inr (by rwa [if_neg missing] at kept))

/-- Without a map of registries there are none. -/
theorem ofSecret_of_no_map (noMap : ∀ members, registries? data ≠ some (.object members)) : ofSecret data = [] := by
  refine ofSecret_of_unread fun document held => ?_
  cases document with
  | object members => exact absurd held (noMap members)
  | _ => rfl

/-- One entry that cannot be read leaves nothing. -/
theorem ofSecret_of_unreadable {members : List (Option String × Document)}
    (held : registries? data = some (.object members))
    (unreadable : ∃ member ∈ members, ¬ ∃ entry, ReadsAs login? member entry) : ofSecret data = [] := by
  obtain ⟨member, isMember, unreadable⟩ := unreadable
  refine ofSecret_of_unread fun document heldToo => ?_
  obtain rfl := Option.some.inj (held.symm.trans heldToo)
  rw [← Option.not_isSome_iff_eq_none, Document.isSome_entries?_iff]
  exact fun readable => unreadable (readable member isMember)

/-! ## Layouts -/

/-- A document with the map of registries as its only member. -/
def configText (name registries : Padded) : List UInt8 :=
  0x7B :: (memberText (name, registries) ++ [0x7D])

theorem readsString_auths : Document.Reader.ReadsString (quotedText "auths") (some "auths") :=
  @Document.Reader.readsString_of_inside (encode "auths".toList)
    ⟨.plain, (encode "auths".toList).reverse, true, none⟩ rfl fun _ _ => rfl

/-- The newer form holds the registries under a name of its own. -/
theorem registries?_configText {name registries : Padded} {document : Document} (nameSpaced : name.Spaced)
    (named : name.inner = quotedText "auths") (spaced : registries.Spaced)
    (reads : Document.Reader.Reads registries.inner document)
    (holds : data.lookup ".dockerconfigjson" = some (configText name registries)) :
    registries? data = some document := by
  have readsName : Document.Reader.ReadsString name.inner (some "auths") := named ▸ readsString_auths
  have joins :=
    @Document.Reader.joins_member document (name, registries) (some "auths") readsName reads nameSpaced spaced
  have read : Document.read? (configText name registries) = some (.object [(some "auths", document)]) :=
    (Document.Reader.reads_object joins).read?_eq
  rw [registries?, holds]
  simp only [read, Option.bind_some]
  rfl

theorem registries?_legacy {text : List UInt8} {document : Document} (reads : Document.Reader.Reads text document)
    (lacks : data.lookup ".dockerconfigjson" = none) (holds : data.lookup ".dockercfg" = some text) :
    registries? data = some document := by
  rw [registries?, lacks, holds]
  exact reads.read?_eq

/-- Both layouts of one map hold the same document and give the same credentials, and what they are follows from
the members of that document. -/
theorem ofSecret_normalized :
    (∀ (name registries : Padded) (config legacy : SecretData), name.Spaced →
      name.inner = quotedText "auths" → registries.Spaced → WellFormed registries.inner →
      config.lookup ".dockerconfigjson" = some (configText name registries) →
      legacy.lookup ".dockerconfigjson" = none → legacy.lookup ".dockercfg" = some registries.inner →
      (∃ document, registries? config = some document ∧ registries? legacy = some document) ∧
        ofSecret config = ofSecret legacy) ∧
    ∀ data : SecretData,
      ((ofSecret data).Pairwise fun credential other =>
        encode credential.registry.toList < encode other.registry.toList) ∧
      (∀ credential ∈ ofSecret data, credential.username = "" ∨ credential.password = "" ∨ credential.auth = "") ∧
      ((∀ members, registries? data ≠ some (.object members)) → ofSecret data = []) ∧
      ∀ members, registries? data = some (.object members) →
        ((∃ member ∈ members, ¬ ∃ entry, ReadsAs login? member entry) → ofSecret data = []) ∧
        ((∀ member ∈ members, ∃ entry, ReadsAs login? member entry) → ∀ credential,
          (credential ∈ ofSecret data ↔ ∃ value token, IsLast members credential.registry value ∧
            login? value = some (credential.username, credential.password, token) ∧
            credential.auth = if credential.username = "" ∨ credential.password = "" then token else "")) := by
  refine ⟨fun name registries config legacy nameSpaced named spaced wellFormed holds lacks holdsLegacy => ?_,
    fun data => ⟨?_, fun credential => incomplete_of_mem_ofSecret, ofSecret_of_no_map, fun members held =>
      ⟨ofSecret_of_unreadable held, fun readable credential => mem_ofSecret held readable⟩⟩⟩
  · obtain ⟨document, reads⟩ := wellFormed.exists_reads
    have held := registries?_configText nameSpaced named spaced reads holds
    have heldLegacy := registries?_legacy reads lacks holdsLegacy
    exact ⟨⟨document, held, heldLegacy⟩, by rw [ofSecret_eq, ofSecret_eq, held, heldLegacy]⟩
  · obtain ⟨logins, same⟩ := exists_ofLogins data
    exact same ▸ pairwise_ofLogins logins

/-- Two entries for one registry, the first of them empty. -/
def repeatedRegistry : List UInt8 :=
  encode "\x7b\"gcr.io\":[],\"gcr.io\":[\"u\",\"p\",\"t\"]\x7d".toList

theorem wellFormed_repeatedRegistry : WellFormed repeatedRegistry := by
  have registry : Document.StringText (quotedText "gcr.io") := Document.stringText_quotedText rfl
  have username : ValueText (quotedText "u") := .string (Document.stringText_quotedText rfl)
  have password : ValueText (quotedText "p") := .string (Document.stringText_quotedText rfl)
  have token : ValueText (quotedText "t") := .string (Document.stringText_quotedText rfl)
  have login : ValueText (encode "[\"u\",\"p\",\"t\"]".toList) :=
    @ValueText.array [.bare (quotedText "u"), .bare (quotedText "p"), .bare (quotedText "t")] (List.cons_ne_nil _ _)
      (by simp [Padded.spaced_bare]) (by simpa using ⟨username, password, token⟩)
  have empty : ValueText (encode "[]".toList) := @ValueText.emptyArray [] (List.forall_mem_nil _)
  refine ⟨.bare repeatedRegistry, Padded.spaced_bare _, ?_, by simp [Padded.text, Padded.bare]⟩
  exact @ValueText.object [(.bare (quotedText "gcr.io"), .bare (encode "[]".toList)),
    (.bare (quotedText "gcr.io"), .bare (encode "[\"u\",\"p\",\"t\"]".toList))] (List.cons_ne_nil _ _)
    (by simpa using ⟨Padded.spaced_bare _, registry⟩) (by simp [Padded.spaced_bare]) (by simpa using ⟨empty, login⟩)

theorem ofSecret_normalized_of_repeated :
    WellFormed repeatedRegistry ∧
      ofSecret [(".dockerconfigjson", configText (.bare (quotedText "auths")) ⟨[0x20], repeatedRegistry, []⟩)] =
        ofSecret [(".dockercfg", repeatedRegistry)] ∧
      ⟨"gcr.io", "u", "p", ""⟩ ∈ ofSecret [(".dockercfg", repeatedRegistry)] ∧
      ofSecret [(".dockercfg", encode "\x7b\"gcr.io\":null\x7d".toList)] = [] := by
  obtain ⟨agree, normal⟩ := ofSecret_normalized
  refine ⟨wellFormed_repeatedRegistry, ?_, ?_, ?_⟩
  · have spaced : Padded.Spaced ⟨[0x20], repeatedRegistry, []⟩ := ⟨List.forall_mem_singleton.mpr (by decide), nofun⟩
    exact (agree (.bare (quotedText "auths")) ⟨[0x20], repeatedRegistry, []⟩ _ _ (Padded.spaced_bare _) rfl spaced
      wellFormed_repeatedRegistry List.lookup_cons_self rfl List.lookup_cons_self).2
  · have held : registries? [(".dockercfg", repeatedRegistry)] =
        some (.object [(some "gcr.io", .array []), (some "gcr.io", .array [.text "u", .text "p", .text "t"])]) := rfl
    refine ((normal _).2.2.2 _ held).2 ?_ _ |>.mpr ⟨.array [.text "u", .text "p", .text "t"], "t", ?_, rfl, rfl⟩
    · exact List.forall_mem_cons.mpr ⟨⟨("gcr.io", "", "", ""), rfl, rfl⟩,
        List.forall_mem_singleton.mpr ⟨("gcr.io", "u", "p", "t"), rfl, rfl⟩⟩
    · exact ⟨[(some "gcr.io", .array [])], [], rfl, nofun⟩
  · have held : registries? [(".dockercfg", encode "\x7b\"gcr.io\":null\x7d".toList)] =
        some (.object [(some "gcr.io", .null)]) := rfl
    refine ((normal _).2.2.2 _ held).1 ⟨_, List.mem_singleton_self _, ?_⟩
    rintro ⟨entry, -, read⟩
    contradiction

end Observatory.Credential
