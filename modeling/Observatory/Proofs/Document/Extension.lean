import Observatory.Document.Record
import Mathlib.Data.List.Forall2
import Mathlib.Data.List.Perm.Basic

/-! # Documents with more in them

What was written as a record may come back in another form: the members of its objects in another order, and members
among them that the record does not have. Main statement: a record is found in any document of this kind, each of its
fields with what has become of the field's value.
-/

namespace Observatory.Document

/-- In each object of the document stand the members of the first document's object, in any order, and any others with
names that are not among theirs. -/
inductive Extends : Document → Document → Prop
  | null : Extends .null .null
  | bool (value : Bool) : Extends (.bool value) (.bool value)
  | number (literal : List Char) : Extends (.number literal) (.number literal)
  | string (text : Option String) : Extends (.string text) (.string text)
  | array {items others : List Document} (each : List.Forall₂ Extends items others) :
      Extends (.array items) (.array others)
  | object {members others : List (Option String × Document)} {values : List Document}
      {extra : List (String × Document)}
      (each : List.Forall₂ Extends (members.map (·.2)) values)
      (foreign : ∀ member ∈ extra, some member.1 ∉ members.map (·.1))
      (order : others.Perm ((members.map (·.1)).zip values ++ extra.map fun (name, value) => (some name, value))) :
      Extends (.object members) (.object others)

theorem Extends.refl (document : Document) : Extends document document := by
  match document with
  | .null => exact .null
  | .bool value => exact .bool value
  | .number literal => exact .number literal
  | .string text => exact .string text
  | .array items =>
    refine .array (List.forall₂_same.mpr fun item member => ?_)
    have smaller : sizeOf item < sizeOf (Document.array items) := by
      have inside := List.sizeOf_lt_of_mem member
      simp only [Document.array.sizeOf_spec]
      omega
    exact refl item
  | .object members =>
    have same : (members.map (·.1)).zip (members.map (·.2)) = members := (List.zip_of_prod rfl rfl).symm
    refine @Extends.object members members (members.map (·.2)) [] (List.forall₂_same.mpr fun value isValue => ?_) nofun
      (by simp [same])
    obtain ⟨⟨name, value⟩, member, rfl⟩ := List.mem_map.mp isValue
    have smaller : sizeOf value < sizeOf (Document.object members) := by
      have inside := List.sizeOf_lt_of_mem member
      simp only [Document.object.sizeOf_spec, Prod.mk.sizeOf_spec] at inside ⊢
      omega
    exact refl value
termination_by sizeOf document
decreasing_by all_goals exact smaller

variable {names : List String} {name : String} {value document : Document} {members fields : List (String × Document)}

/-! ## Finding the fields of a record -/

theorem lookup_eq_some_of_mem (distinct : (fields.map (·.1)).Nodup) (member : (name, value) ∈ fields) :
    fields.lookup name = some value := by
  induction fields with
  | nil => contradiction
  | cons field rest ih =>
    obtain ⟨first, other⟩ := field
    obtain ⟨fresh, distinct⟩ := List.nodup_cons.mp distinct
    rcases List.mem_cons.mp member with same | later
    · obtain ⟨rfl, rfl⟩ := Prod.mk.inj same
      exact List.lookup_cons_self
    · have differs : name ≠ first := by
        rintro rfl
        exact fresh (List.mem_map.mpr ⟨_, later, rfl⟩)
      rw [List.lookup_cons, beq_false_of_ne differs]
      exact ih distinct later

/-- If no field occurs twice, the fields are those of the members that are known. -/
theorem fieldsOfMembers?_eq_filter (distinct : ((members.filter (·.1 ∈ names)).map (·.1)).Nodup) :
    fieldsOfMembers? names (members.map fun (name, value) => (some name, value)) =
      some (members.filter (·.1 ∈ names)) := by
  induction members with
  | nil => rfl
  | cons member rest ih =>
    obtain ⟨name, value⟩ := member
    by_cases known : name ∈ names
    · rw [List.filter_cons_of_pos (by simpa using known)] at distinct ⊢
      obtain ⟨fresh, distinct⟩ := List.nodup_cons.mp distinct
      have absent : (rest.filter (·.1 ∈ names)).lookup name = none := by
        rw [List.lookup_eq_none_iff]
        intro other member
        simp only [bne_iff_ne]
        rintro rfl
        exact fresh (List.mem_map.mpr ⟨_, member, rfl⟩)
      simp [fieldsOfMembers?, ih distinct, known, absent]
    · rw [List.filter_cons_of_neg (by simpa using known)] at distinct ⊢
      simp [fieldsOfMembers?, ih distinct, known]

/-- What has become of a field's value. -/
theorem exists_extends_of_mem {values : List Document} (each : List.Forall₂ Extends (fields.map (·.2)) values)
    (member : (name, value) ∈ fields) :
    ∃ later, (name, later) ∈ (fields.map (·.1)).zip values ∧ Extends value later := by
  induction fields generalizing values with
  | nil => contradiction
  | cons field rest ih =>
    cases each with
    | cons first others =>
      rcases List.mem_cons.mp member with rfl | member
      · exact ⟨_, List.mem_cons_self, first⟩
      · obtain ⟨later, isThere, extended⟩ := ih others member
        exact ⟨later, List.mem_cons_of_mem _ isThere, extended⟩

private theorem exists_map_of_perm {α β : Type} {f : α → β} {others : List β} {items : List α}
    (order : others.Perm (items.map f)) : ∃ listed : List α, others = listed.map f ∧ listed.Perm items :=
  (congrFun (congrFun (List.eq_map_comp_perm f) others) items).mpr order

/-- The members of an extended record have names that can be read. -/
theorem exists_listed {values : List Document} {extra : List (String × Document)}
    {others : List (Option String × Document)}
    (order : others.Perm (((fields.map fun (name, value) => (some name, value)).map (·.1)).zip values ++
      extra.map fun (name, value) => (some name, value))) :
    ∃ listed : List (String × Document), others = listed.map (fun (name, value) => (some name, value)) ∧
      listed.Perm ((fields.map (·.1)).zip values ++ extra) := by
  have front : ((fields.map fun (name, value) => (some name, value)).map (·.1)).zip values =
      ((fields.map (·.1)).zip values).map fun (name, value) => (some name, value) := by
    rw [List.map_map, List.zip_map_left]
    simp [List.zip_map_left, Function.comp_def, Prod.map]
  rw [front, ← List.map_append] at order
  exact exists_map_of_perm order

/-- The known ones among the members are those of the record. -/
theorem filter_perm_of_foreign {kept extra : List (String × Document)} (names : kept.map (·.1) = fields.map (·.1))
    (foreign : ∀ member ∈ extra, member.1 ∉ fields.map (·.1)) (order : members.Perm (kept ++ extra)) :
    (members.filter (·.1 ∈ fields.map (·.1))).Perm kept := by
  have all : kept.filter (·.1 ∈ fields.map (·.1)) = kept := by
    refine List.filter_eq_self.mpr fun member isKept => ?_
    rw [decide_eq_true_iff, ← names]
    exact List.mem_map_of_mem isKept
  have none : extra.filter (·.1 ∈ fields.map (·.1)) = [] := by
    refine List.filter_eq_nil_iff.mpr fun member isExtra => ?_
    rw [decide_eq_true_iff]
    exact foreign member isExtra
  have known := order.filter (·.1 ∈ fields.map (·.1))
  rwa [List.filter_append, all, none, List.append_nil] at known

/-- A record has the same fields in each document that extends it. -/
theorem Extends.exists_fields? (extended : Extends (.record fields) document) (distinct : (fields.map (·.1)).Nodup) :
    ∃ found, document.fields? (fields.map (·.1)) = some found ∧
      ∀ name value, (name, value) ∈ fields → ∃ later, found.lookup name = some later ∧ Extends value later := by
  cases extended with
  | @object _ others values extra each foreign order =>
    have each : List.Forall₂ Extends (fields.map (·.2)) values := by simpa using each
    have names : ((fields.map (·.1)).zip values).map (·.1) = fields.map (·.1) :=
      List.map_fst_zip (by simpa using Nat.le_of_eq each.length_eq)
    obtain ⟨listed, rfl, same⟩ := exists_listed order
    have known := filter_perm_of_foreign names (by simpa using foreign) same
    have once : ((listed.filter (·.1 ∈ fields.map (·.1))).map (·.1)).Nodup := by
      rw [(known.map (·.1)).nodup_iff, names]
      exact distinct
    refine ⟨_, fieldsOfMembers?_eq_filter once, fun name value member => ?_⟩
    obtain ⟨later, isThere, extended⟩ := exists_extends_of_mem each member
    exact ⟨later, lookup_eq_some_of_mem once (known.mem_iff.mpr isThere), extended⟩

end Observatory.Document
