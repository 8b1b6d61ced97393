import Observatory.Proofs.Text.Decimal
import Observatory.Proofs.Text.Split
import Observatory.Trace.Line

/-! # The grammar of event lines

A line that reads as an event is eight fields with separators between them. The separator has no border and
shares no character with the overflow marker, so neither can be made up of parts of two fields. Main
statement: a line reads as an event exactly if it is the line of plain fields that denote the event, and
these fields are then the only ones.
-/

namespace Observatory.Trace

open Calendar

variable {line : List Char} {event : Event}

/-- The text can stand as a field: it contains neither the separator nor the overflow marker. -/
def Plain (text : List Char) : Prop :=
  ¬ separator <:+: text ∧ ¬ overflowMarker <:+: text

instance (text : List Char) : Decidable (Plain text) :=
  inferInstanceAs (Decidable (_ ∧ _))

/-- The texts of the fields of a line. -/
structure Fields where
  timestamp : List Char
  container : List Char
  category : List Char
  ppid : List Char
  pid : List Char
  syscall : List Char
  exe : List Char
  cmd : List Char
deriving DecidableEq

namespace Fields

variable {fields other : Fields}

def toList (fields : Fields) : List (List Char) :=
  [fields.timestamp, fields.container, fields.category, fields.ppid, fields.pid, fields.syscall, fields.exe,
    fields.cmd]

def toLine (fields : Fields) : List Char :=
  Text.joinWith separator fields.toList

/-- Every field is plain. -/
def ArePlain (fields : Fields) : Prop :=
  ∀ field ∈ fields.toList, Plain field

instance (fields : Fields) : Decidable fields.ArePlain :=
  inferInstanceAs (Decidable (∀ field ∈ fields.toList, _))

/-- The fields that are read have the values of the event, and the others are its texts. -/
structure Denotes (fields : Fields) (event : Event) : Prop where
  timestamp : Timestamp.read? fields.timestamp = some event.timestamp
  container : ContainerId.ofString? (String.ofList fields.container) = some event.container
  category : event.category = String.ofList fields.category
  ppid : Text.IsLiteral (Text.trim fields.ppid) event.ppid.toNat
  pid : Text.IsLiteral (Text.trim fields.pid) event.pid.toNat
  syscall : event.syscall = String.ofList fields.syscall
  exe : event.exe = String.ofList fields.exe
  cmd : event.cmd = String.ofList fields.cmd

theorem toList_injective (same : fields.toList = other.toList) : fields = other := by
  cases fields
  cases other
  simpa [toList] using same

theorem toList_ne_nil (fields : Fields) : fields.toList ≠ [] :=
  List.cons_ne_nil _ _

end Fields

/-! ## Separators and markers -/

theorem unbordered_separator : Text.Unbordered separator := by decide

/-- The marker stands in a line exactly if it stands in one of the fields. -/
theorem overflowMarker_infix_iff (fields : List (List Char)) :
    overflowMarker <:+: Text.joinWith separator fields ↔ ∃ field ∈ fields, overflowMarker <:+: field := by
  have foreign : (overflowMarker.all fun c => decide (c ∉ separator)) = true := by decide
  apply Text.infix_joinWith_iff (by decide) unbordered_separator.1
  intro c member
  exact of_decide_eq_true (List.all_eq_true.mp foreign c member)

theorem splitOn_toLine {fields : Fields} (plain : fields.ArePlain) :
    Text.splitOn separator fields.toLine = fields.toList :=
  unbordered_separator.splitOn_joinWith fields.toList_ne_nil fun field member => (plain field member).1

/-! ## Reading fields -/

theorem readPid?_eq_some_iff {text : List Char} {pid : UInt32} :
    readPid? text = some pid ↔ Text.IsLiteral (Text.trim text) pid.toNat := by
  have bound : pid.toNat ≤ UInt32.size - 1 := by
    have below := pid.toNat_lt_size
    omega
  unfold readPid?
  constructor
  · intro read
    split at read
    · rename_i value result
      obtain ⟨literal, small⟩ := Text.readUnsigned_eq_ok_iff.mp result
      obtain rfl := Option.some.inj read
      have below : value < 2 ^ 32 := by
        have size : UInt32.size = 2 ^ 32 := by decide
        omega
      rwa [UInt32.toNat_ofNat_of_lt' below]
    · contradiction
  · intro literal
    rw [Text.readUnsigned_eq_ok_iff.mpr ⟨literal, bound⟩]
    simp

private theorem bind_eq_ok {ε α β : Type} {result : Except ε α} {next : α → Except ε β} {value : β} :
    result >>= next = .ok value ↔ ∃ a, result = .ok a ∧ next a = .ok value := by
  cases result with
  | error e => simp [bind, Except.bind]
  | ok a => simp [bind, Except.bind]

private theorem require_eq_ok {α : Type} {line value : List Char} {field : Field} {found : Option α} {a : α} :
    require line field value found = .ok a ↔ found = some a := by
  cases found <;> simp [require]

/-- The fields of a line are its pieces. -/
theorem readFields_eq_ok_iff :
    readFields line = .ok event ↔
      ∃ fields : Fields, Text.splitOn separator line = fields.toList ∧ fields.Denotes event := by
  unfold readFields
  split
  · rename_i timestamp container category ppid pid syscall exe cmd pieces
    simp only [bind_eq_ok, require_eq_ok, readPid?_eq_some_iff, pure, Except.pure, Except.ok.injEq]
    constructor
    · rintro ⟨time, readTime, id, readId, parent, readParent, process, readProcess, rfl⟩
      exact ⟨⟨timestamp, container, category, ppid, pid, syscall, exe, cmd⟩, pieces,
        ⟨readTime, readId, rfl, readParent, readProcess, rfl, rfl, rfl⟩⟩
    · rintro ⟨fields, same, denotes⟩
      rw [pieces] at same
      obtain rfl : ⟨timestamp, container, category, ppid, pid, syscall, exe, cmd⟩ = fields :=
        Fields.toList_injective same
      refine ⟨_, denotes.timestamp, _, denotes.container, _, denotes.ppid, _, denotes.pid, ?_⟩
      rw [← denotes.category, ← denotes.syscall, ← denotes.exe, ← denotes.cmd]
  · rename_i notEight
    simp only [reduceCtorEq, false_iff, not_exists, not_and]
    intro fields same
    exact (notEight _ _ _ _ _ _ _ _ same).elim

/-- A line reads as an event if it has no marker and its pieces denote the event. -/
theorem readLine_eq_event_iff :
    readLine line = .ok (.event event) ↔
      ∃ fields : Fields, line = fields.toLine ∧ fields.ArePlain ∧ fields.Denotes event := by
  have fieldsOf (fields : Fields) :=
    @Text.Unbordered.splitOn_eq_iff _ _ _ line _ unbordered_separator fields.toList_ne_nil
  unfold readLine
  split
  · rename_i marked
    rw [Text.occursIn_iff_isInfix] at marked
    simp only [Except.ok.injEq, reduceCtorEq, false_iff, not_exists, not_and]
    rintro fields rfl plain
    obtain ⟨field, member, inside⟩ := (overflowMarker_infix_iff _).mp marked
    exact absurd inside (plain field member).2
  · rename_i unmarked
    rw [Text.occursIn_iff_isInfix] at unmarked
    have mapped : (readFields line).map Message.event = .ok (.event event) ↔ readFields line = .ok event := by
      cases readFields line <;> simp [Except.map]
    rw [mapped, readFields_eq_ok_iff]
    constructor
    · rintro ⟨fields, pieces, denotes⟩
      obtain ⟨rfl, free⟩ := (fieldsOf fields).mp pieces
      refine ⟨fields, rfl, fun field member => ⟨free field member, fun inside => unmarked ?_⟩, denotes⟩
      exact (overflowMarker_infix_iff _).mpr ⟨field, member, inside⟩
    · rintro ⟨fields, rfl, plain, denotes⟩
      exact ⟨fields, splitOn_toLine plain, denotes⟩

/-- A line reads as an event exactly if it is the line of plain fields that denote it, and there is then one
choice of them: the fields of a line are found again by cutting it, whatever parts of separators they begin or
end with, and it is no overflow notice. -/
theorem event_iff_existsUnique_fields (line : List Char) (event : Event) :
    (readLine line = .ok (.event event) ↔
        ∃! fields : Fields, line = fields.toLine ∧ fields.ArePlain ∧ fields.Denotes event) ∧
      ∀ fields : Fields, fields.ArePlain →
        Text.splitOn separator fields.toLine = fields.toList ∧ ¬ overflowMarker <:+: fields.toLine := by
  constructor
  · rw [readLine_eq_event_iff]
    constructor
    · rintro ⟨fields, rfl, plain, denotes⟩
      refine ⟨fields, ⟨rfl, plain, denotes⟩, ?_⟩
      rintro other ⟨same, otherPlain, -⟩
      apply Fields.toList_injective
      rw [← splitOn_toLine otherPlain, ← same, splitOn_toLine plain]
    · rintro ⟨fields, found, -⟩
      exact ⟨fields, found⟩
  · intro fields plain
    refine ⟨splitOn_toLine plain, ?_⟩
    intro marked
    obtain ⟨field, member, inside⟩ := (overflowMarker_infix_iff _).mp marked
    exact (plain field member).2 inside

/-- Fields that begin and end with parts of the separator. -/
private def fragmentary : Fields where
  timestamp := " 2024- 1-1T0:0:60.5+[".toList
  container := "web0".toList
  category := "[]::".toList
  ppid := " +007\t".toList
  pid := "4294967295".toList
  syscall := "::[]".toList
  exe := "]:".toList
  cmd := "drop event ]::".toList

private def fragmentaryEvent : Event where
  timestamp := ⟨⟨2024, 1, 1, by decide, by decide, by decide⟩, 0, 0, 59, 1500000000, by decide, by decide,
    Nat.lt_add_one 59, by decide, by decide⟩
  container := ⟨"web0", by decide⟩
  category := "[]::"
  ppid := 7
  pid := 4294967295
  syscall := "::[]"
  exe := "]:"
  cmd := "drop event ]::"

theorem event_iff_of_fragmentary :
    readLine fragmentary.toLine = .ok (.event fragmentaryEvent) ∧
      (∃! fields : Fields, fragmentary.toLine = fields.toLine ∧ fields.ArePlain ∧ fields.Denotes fragmentaryEvent) ∧
      fragmentary.ArePlain ∧ Text.splitOn separator fragmentary.toLine = fragmentary.toList := by
  have read : readLine fragmentary.toLine = .ok (.event fragmentaryEvent) := by decide +kernel
  have plain : fragmentary.ArePlain := by decide +kernel
  obtain ⟨grammar, cut⟩ := event_iff_existsUnique_fields fragmentary.toLine fragmentaryEvent
  exact ⟨read, grammar.mp read, plain, (cut fragmentary plain).1⟩

end Observatory.Trace
