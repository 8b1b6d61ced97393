import Observatory.Proofs.Calendar.Notation
import Observatory.Proofs.Trace.Grammar

/-! # Events written as lines

The line that is written for an event is one of many that read as it. Main statement: an event that was read
from any line is read again from the line that is written for it, to the microsecond, and so it is if a zone
is added to its timestamp.
-/

namespace Observatory.Trace

variable {event : Event} {zone text front back pattern : List Char} {c : Char}

/-! ## Plain texts -/

/-- A pattern does not stand in a text that lacks one of its characters. -/
private theorem not_infix_of_notMem (needed : c ∈ pattern) (lacking : c ∉ text) : ¬ pattern <:+: text :=
  fun inside => lacking (inside.subset needed)

/-- A pattern does not begin in a text that lacks its first character. -/
private theorem infix_of_infix_append {tail : List Char} (lacking : c ∉ front) (inside : c :: tail <:+: front ++ back) :
    c :: tail <:+: back := by
  rcases List.infix_append_iff.mp inside with within | later | ⟨ending, beginning, same, atEnd, atStart⟩
  · exact absurd (List.mem_cons_self ..) (fun first => lacking (within.subset first))
  · exact later
  · cases ending with
    | nil =>
      rw [same, List.nil_append]
      exact atStart.isInfix
    | cons d others =>
      rw [List.cons_append, List.cons_eq_cons] at same
      exact absurd (atEnd.subset (by simp [same.1])) lacking

private theorem plain_append (closes : ']' ∉ front) (letter : 'd' ∉ front) (plain : Plain back) :
    Plain (front ++ back) :=
  ⟨fun inside => plain.1 (infix_of_infix_append closes inside),
    fun inside => plain.2 (infix_of_infix_append letter inside)⟩

theorem plain_nil : Plain [] := by decide

/-- The separator needs a bracket and the marker a space. -/
theorem plain_of_isAlphanum (alphanumeric : ∀ c ∈ text, c.isAlphanum = true) : Plain text := by
  have bracket : ']' ∉ text := fun member => absurd (alphanumeric _ member) (by decide)
  have space : ' ' ∉ text := fun member => absurd (alphanumeric _ member) (by decide)
  exact ⟨not_infix_of_notMem (by decide) bracket, not_infix_of_notMem (by decide) space⟩

theorem plain_decimal (n : Nat) : Plain (Text.decimal n) := by
  apply plain_of_isAlphanum
  intro c member
  simp [Char.isAlphanum, Text.isDigit_of_mem_decimal member]

/-- What may follow a timestamp: nothing, or a plus sign and a plain text. -/
def IsZone (zone : List Char) : Prop :=
  zone = [] ∨ ∃ name, zone = '+' :: name ∧ Plain name

theorem IsZone.head? (zoned : IsZone zone) : zone = [] ∨ zone.head? = some '+' := by
  rcases zoned with nothing | ⟨name, rfl, -⟩
  · exact .inl nothing
  · exact .inr rfl

theorem IsZone.plain (zoned : IsZone zone) : Plain zone := by
  rcases zoned with rfl | ⟨name, rfl, plain⟩
  · exact plain_nil
  · exact plain_append (by decide : ']' ∉ ['+']) (by decide) plain

theorem plain_timestamp (t : Calendar.Timestamp) (zoned : IsZone zone) : Plain (t.toMicrosText ++ zone) := by
  have lacks (c : Char) (other : c.isDigit = false ∧ c ∉ "-T:.".toList) : c ∉ t.toMicrosText := by
    intro member
    rcases List.mem_append.mp member with whole | fraction
    · rcases Calendar.Timestamp.mem_wholeText whole with digit | rfl | rfl | rfl
      · rw [other.1] at digit
        contradiction
      all_goals exact other.2 (by decide)
    · rcases List.mem_cons.mp fraction with rfl | digit
      · exact other.2 (by decide)
      · rw [Text.isDigit_of_mem_padded digit] at other
        exact Bool.noConfusion other.1
  exact plain_append (lacks ']' (by decide)) (lacks 'd' (by decide)) zoned.plain

/-! ## The line of an event -/

/-- The event with its timestamp cut off after the microseconds. -/
def Event.toMicros (event : Event) : Event :=
  { event with timestamp := event.timestamp.toMicros }

/-- The fields that are written for an event. -/
def Event.fields (event : Event) (zone : List Char) : Fields where
  timestamp := event.timestamp.toMicrosText ++ zone
  container := event.container.text.toList
  category := event.category.toList
  ppid := Text.decimal event.ppid.toNat
  pid := Text.decimal event.pid.toNat
  syscall := event.syscall.toList
  exe := event.exe.toList
  cmd := event.cmd.toList

theorem isLiteral_trim_decimal (n : Nat) : Text.IsLiteral (Text.trim (Text.decimal n)) n := by
  rw [Text.trim_of_forall_not_isBlank]
  · exact Text.isLiteral_decimal n
  · exact fun c member => Text.isBlank_of_isDigit (Text.isDigit_of_mem_decimal member)

theorem Event.denotes_fields (late : event.timestamp.date.year ≤ 9999) (zoned : IsZone zone) :
    (event.fields zone).Denotes event.toMicros where
  timestamp := Calendar.Timestamp.read?_toMicrosText late zoned.head?
  container := by
    simp only [fields, toMicros, String.ofList_toList, ContainerId.ofString?]
    rw [dif_pos event.container.valid]
  category := String.ofList_toList.symm
  ppid := isLiteral_trim_decimal _
  pid := isLiteral_trim_decimal _
  syscall := String.ofList_toList.symm
  exe := String.ofList_toList.symm
  cmd := String.ofList_toList.symm

/-- What is written of an event is plain if the fields that it was read from were. -/
theorem Event.arePlain_fields {fields : Fields} (plain : fields.ArePlain) (denotes : fields.Denotes event)
    (zoned : IsZone zone) : (event.fields zone).ArePlain := by
  have kept {text : String} {field : List Char} (same : text = String.ofList field) (member : field ∈ fields.toList) :
      Plain text.toList := by
    rw [same, String.toList_ofList]
    exact plain field member
  have container : Plain event.container.text.toList := by
    apply plain_of_isAlphanum
    exact List.all_eq_true.mp event.container.valid.2.2
  simp only [Fields.ArePlain, Fields.toList, Event.fields, List.forall_mem_cons]
  exact ⟨plain_timestamp _ zoned, container, kept denotes.category (by simp [Fields.toList]), plain_decimal _,
    plain_decimal _, kept denotes.syscall (by simp [Fields.toList]), kept denotes.exe (by simp [Fields.toList]),
    kept denotes.cmd (by simp [Fields.toList]), by simp⟩

/-- Whatever line an event was read from, it is read to the microsecond from the line that is written for it,
with or without a zone. -/
theorem readLine_toLine {line : List Char} (read : readLine line = .ok (.event event)) (zoned : IsZone zone) :
    readLine (event.toLine zone) = .ok (.event event.toMicros) := by
  obtain ⟨fields, -, plain, denotes⟩ := readLine_eq_event_iff.mp read
  have late := Calendar.Timestamp.year_le_of_read? denotes.timestamp
  apply readLine_eq_event_iff.mpr
  exact ⟨event.fields zone, rfl, Event.arePlain_fields plain denotes zoned, Event.denotes_fields late zoned⟩

/-- A leap second of a leap year before year zero, with blanks, without zeros and with ten digits of fraction. -/
private def looseLine : List Char :=
  " -4- 2-29T\t9:5:60.1234567899+x]::[web1]::[]]::[ +01 ]::[2]::[open]::[]::[cat [".toList

private def looseEvent : Event where
  timestamp := ⟨⟨-4, 2, 29, by decide, by decide, by decide⟩, 9, 5, 59, 1123456789, by decide, by decide,
    Nat.lt_succ_self 59, by decide, by decide⟩
  container := ⟨"web1", by decide⟩
  category := "]"
  ppid := 1
  pid := 2
  syscall := "open"
  exe := ""
  cmd := "cat ["

theorem readLine_toLine_of_loose :
    readLine looseLine = .ok (.event looseEvent) ∧
      looseEvent.toLine "+]::CET".toList =
        "-0004-02-29T09:05:60.123456+]::CET]::[web1]::[]]::[1]::[2]::[open]::[]::[cat [".toList ∧
      readLine (looseEvent.toLine "+]::CET".toList) = .ok (.event looseEvent.toMicros) ∧
      looseEvent.toMicros.timestamp.nano = 1123456000 := by
  have read : readLine looseLine = .ok (.event looseEvent) := by decide +kernel
  have zoned : IsZone "+]::CET".toList := .inr ⟨"]::CET".toList, by decide, by decide⟩
  exact ⟨read, by decide +kernel, readLine_toLine read zoned, by decide⟩

end Observatory.Trace
