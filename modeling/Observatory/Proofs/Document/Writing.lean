import Observatory.Document.Writer
import Observatory.Proofs.Document.Reading
import Observatory.Proofs.Text.Lossy

/-! # Reading what was written

Main statement: a document whose numbers are numbers is read from the bytes of its written form, whatever its strings
hold and however deep it is.
-/

namespace Observatory

namespace Text.Utf8

theorem encode_append (text more : List Char) : encode (text ++ more) = encode text ++ encode more :=
  List.flatMap_append

theorem encode_cons (c : Char) (text : List Char) : encode (c :: text) = String.utf8EncodeChar c ++ encode text :=
  List.flatMap_cons

theorem pieces_encode (text : List Char) : pieces (encode text) = text.map some := by
  induction text with
  | nil => rfl
  | cons c text ih =>
    rw [encode_cons, pieces, piecesFrom_append, run_utf8EncodeChar]
    exact congrArg (some c :: ·) ih

/-- What is encoded can be decoded. -/
theorem decode?_encode (text : List Char) : decode? (encode text) = some text := by
  rw [decode?, pieces_encode]
  induction text with
  | nil => rfl
  | cons c text ih => simp [ih]

end Text.Utf8

namespace Document

open Text (joinWith)
open Text.Utf8 (IsAscii asciiChar encode encode_append encode_cons)

/-! ## Strings -/

/-- A byte that stands for itself in a string. -/
structure IsPlain (byte : UInt8) : Prop where
  printable : 0x20 ≤ byte
  notQuote : byte ≠ 0x22
  notEscape : byte ≠ 0x5C

theorem isPlain_ofNat {n : Nat} (printable : 0x20 ≤ n) (small : n < 256) (notQuote : n ≠ 0x22) (notEscape : n ≠ 0x5C) :
    IsPlain (.ofNat n) := by
  have back := UInt8.toNat_ofNat_of_lt' small
  constructor
  · rwa [UInt8.le_iff_toNat_le, back]
  · intro same
    rw [same] at back
    exact notQuote back.symm
  · intro same
    rw [same] at back
    exact notEscape back.symm

/-- The bytes of a character that needs no escape are taken into a string as they are. -/
theorem isPlain_of_mem_utf8EncodeChar {c : Char} (printable : 0x20 ≤ c.toNat) (notQuote : c ≠ '"')
    (notEscape : c ≠ '\\') : ∀ byte ∈ String.utf8EncodeChar c, IsPlain byte := by
  have printable : 0x20 ≤ c.val.toNat := printable
  have notQuote : c.val.toNat ≠ 0x22 := fun same => notQuote (Char.toNat_inj.mp same)
  have notEscape : c.val.toNat ≠ 0x5C := fun same => notEscape (Char.toNat_inj.mp same)
  simp only [String.utf8EncodeChar]
  split_ifs
  · exact List.forall_mem_singleton.mpr (isPlain_ofNat printable (by omega) notQuote notEscape)
  all_goals
    -- the bytes of a longer encoding are above those of the short ones
    simp only [List.forall_mem_cons, List.not_mem_nil, false_imp_iff, implies_true, and_true]
    and_intros
    all_goals exact isPlain_ofNat (by omega) (by omega) (by omega) (by omega)

namespace Reader

variable {open_ : OpenString} {bytes : List UInt8} {c : Char}

theorem push_push (open_ : OpenString) (bytes more : List UInt8) :
    (open_.push bytes).push more = open_.push (bytes ++ more) := by
  simp [OpenString.push]

/-- Plain bytes are collected one after the other. -/
theorem readFrom?_forall_plain (solid : bytes ≠ []) (plain : open_.place = .plain) (all : ∀ byte ∈ bytes, IsPlain byte)
    (state : List Frame × Expectation) (rest : List UInt8) :
    readFrom? (.string open_) state (bytes ++ rest) = readFrom? (.string (open_.push bytes)) state rest := by
  induction bytes generalizing open_ with
  | nil => contradiction
  | cons byte more ih =>
    obtain ⟨⟨printable, notQuote, notEscape⟩, all⟩ := List.forall_mem_cons.mp all
    rw [List.cons_append, readFrom?_plain plain printable notQuote notEscape]
    by_cases last : more = []
    · rw [last, List.nil_append]
    · rw [ih last rfl all, push_push, List.singleton_append]

/-- A control character that was escaped is read as itself. -/
theorem readFrom?_control {n : Nat} (control : n < 0x20) (plain : open_.place = .plain)
    (state : List Frame × Expectation) (rest : List UInt8) :
    readFrom? (.string open_) state (encode ('\\' :: 'u' :: hexText n) ++ rest) =
      readFrom? (.string (open_.pushChar (.ofNat n))) state rest := by
  have checked : ∀ n < 0x20, (encode (hexText n)).length = 4 ∧
      ((encode (hexText n)).all fun digit => (hexDigit? digit).isSome) = true ∧ hexValue 0 (encode (hexText n)) = n := by
    decide
  obtain ⟨four, hex, value⟩ := checked n control
  have unit : open_.pushUnit n = open_.pushChar (.ofNat n) := by
    rw [OpenString.pushUnit, if_neg (by omega), if_neg (by omega)]
  have read := readFrom?_unit plain four (List.all_eq_true.mp hex) state rest
  rwa [value, unit] at read

/-- A character is read from the form in which it is written. -/
theorem readFrom?_escapeChar (plain : open_.place = .plain) (c : Char) (state : List Frame × Expectation)
    (rest : List UInt8) :
    readFrom? (.string open_) state (encode (escapeChar c) ++ rest) =
      readFrom? (.string (open_.pushChar c)) state rest := by
  unfold escapeChar
  split
  · exact readFrom?_short plain rfl (by decide) state rest
  · exact readFrom?_short plain rfl (by decide) state rest
  · exact readFrom?_short plain rfl (by decide) state rest
  · exact readFrom?_short plain rfl (by decide) state rest
  · exact readFrom?_short plain rfl (by decide) state rest
  · rename_i notQuote notEscape _ _ _
    split
    · rename_i control
      rw [readFrom?_control control plain, Char.ofNat_toNat]
    · rename_i printable
      have all := isPlain_of_mem_utf8EncodeChar (Nat.not_lt.mp printable) notQuote notEscape
      rw [encode, List.flatMap_singleton]
      exact readFrom?_forall_plain String.utf8EncodeChar_ne_nil plain all state rest

/-- A text that was escaped is read character by character. -/
theorem readFrom?_flatMap_escapeChar (plain : open_.place = .plain) (text : List Char)
    (state : List Frame × Expectation) (rest : List UInt8) :
    readFrom? (.string open_) state (encode (text.flatMap escapeChar) ++ rest) =
      readFrom? (.string (text.foldl OpenString.pushChar open_)) state rest := by
  induction text generalizing open_ with
  | nil => rfl
  | cons c text ih =>
    rw [List.flatMap_cons, encode_append, List.append_assoc, readFrom?_escapeChar plain, ih rfl]
    rfl

theorem foldl_pushChar (text : List Char) (bytes : List UInt8) :
    text.foldl OpenString.pushChar ⟨.plain, bytes, true, none⟩ =
      ⟨.plain, (encode text).reverse ++ bytes, true, none⟩ := by
  induction text generalizing bytes with
  | nil => rfl
  | cons c text ih =>
    rw [List.foldl_cons, OpenString.pushChar, OpenString.push, encode_cons, List.reverse_append, List.append_assoc]
    exact ih _

/-- A string that was written is read as it was. -/
theorem readsString_writeString (contents : Option String) : ReadsString (encode (writeString contents)) contents := by
  cases contents with
  | none =>
    -- a surrogate that stands alone
    exact @readsString_of_inside [0x5C, 0x75, 0x64, 0x38, 0x30, 0x30] ⟨.plain, [], true, some 0xD800⟩ rfl fun _ _ => rfl
  | some text =>
    have read := foldl_pushChar text.toList []
    have contents : (text.toList.foldl OpenString.pushChar .empty).text? = some text := by
      rw [OpenString.empty, read, OpenString.text?, List.append_nil, List.reverse_reverse, Text.Utf8.decode?_encode]
      simp
    have inside := @readFrom?_flatMap_escapeChar .empty rfl text.toList
    have written : encode (writeString (some text)) = 0x22 :: (encode (text.toList.flatMap escapeChar) ++ [0x22]) :=
      congrArg (0x22 :: ·) (encode_append (text.toList.flatMap escapeChar) ['"'])
    have whole := @readsString_of_inside (encode (text.toList.flatMap escapeChar))
      (text.toList.foldl OpenString.pushChar .empty) (by rw [OpenString.empty, read]) inside
    rwa [contents, ← written] at whole

end Reader

open Reader

/-! ## Documents -/

/-- Each number is written as one. -/
inductive Numeric : Document → Prop
  | null : Numeric .null
  | bool (value : Bool) : Numeric (.bool value)
  | number {literal : List Char} (numeral : IsNumeral literal) : Numeric (.number literal)
  | string (text : Option String) : Numeric (.string text)
  | array {items : List Document} (each : ∀ item ∈ items, Numeric item) : Numeric (.array items)
  | object {members : List (Option String × Document)} (each : ∀ member ∈ members, Numeric member.2) :
      Numeric (.object members)

/-- Items are written with commas between them. -/
theorem writeItems_eq_joinWith (items : List Document) : writeItems items = joinWith [','] (items.map write) := by
  induction items with
  | nil => rfl
  | cons item rest ih =>
    cases rest with
    | nil => rfl
    | cons second others => simp [writeItems, joinWith, ih]

/-- A member as it is written. -/
def writeMember (member : Option String × Document) : List Char :=
  writeString member.1 ++ ':' :: member.2.write

theorem writeMembers_eq_joinWith (members : List (Option String × Document)) :
    writeMembers members = joinWith [','] (members.map writeMember) := by
  induction members with
  | nil => rfl
  | cons member rest ih =>
    cases rest with
    | nil => rfl
    | cons second others => simp [writeMembers, joinWith, writeMember, ih]

theorem encode_joinWith (separator : List Char) (pieces : List (List Char)) :
    encode (joinWith separator pieces) = joinWith (encode separator) (pieces.map encode) := by
  induction pieces with
  | nil => rfl
  | cons piece rest ih =>
    cases rest with
    | nil => rfl
    | cons second others => simp [joinWith, encode_append, ih]

theorem map_asciiChar_encode {text : List Char} (ascii : ∀ c ∈ text, c.toNat < 128) :
    (encode text).map asciiChar = text := by
  induction text with
  | nil => rfl
  | cons c text ih =>
    obtain ⟨small, ascii⟩ := List.forall_mem_cons.mp ascii
    have single : String.utf8EncodeChar c = [.ofNat c.toNat] := if_pos (Nat.le_of_lt_succ small)
    have back : asciiChar (.ofNat c.toNat) = c := by
      rw [asciiChar, UInt8.toNat_ofNat_of_lt' (Nat.lt_trans small (by decide)), Char.ofNat_toNat]
    rw [encode_cons, single, List.singleton_append, List.map_cons, back, ih ascii]

theorem toNat_lt_of_isNumberPart {c : Char} (part : isNumberPart c) : c.toNat < 128 := by
  simp only [isNumberPart, Bool.or_eq_true, beq_iff_eq] at part
  rcases part with ((((digit | rfl) | rfl) | rfl) | rfl) | rfl
  · rw [Char.isDigit, Bool.and_eq_true, decide_eq_true_iff, decide_eq_true_iff] at digit
    exact Nat.lt_of_le_of_lt (UInt32.le_iff_toNat_le.mp digit.2) (by decide)
  all_goals decide

/-- A number that was written is read as it was. -/
theorem reads_writeNumber {literal : List Char} (numeral : IsNumeral literal) :
    Reads (encode literal) (.number literal) := by
  have same : (encode literal).map asciiChar = literal :=
    map_asciiChar_encode fun c member => toNat_lt_of_isNumberPart (numeral.parts.1 c member)
  have reads := @reads_number (encode literal) (by rwa [same])
  rwa [same] at reads

/-- Items that are each read from their text are read one after the other. -/
theorem joins_map {β : Type} {frame : List β → Frame} {Awaits : Expectation → Prop} {items : List β}
    (text : β → List Char) (next : Expectation)
    (comma : ∀ begun stack, step (frame begun :: stack) .separator .comma = some (frame begun :: stack, next))
    (awaits : Awaits next) (inhabited : items ≠ [])
    (each : ∀ item ∈ items, Joins frame Awaits (encode (text item)) [item]) :
    Joins frame Awaits (encode (joinWith [','] (items.map text))) items.reverse := by
  have pieces : List.Forall₂ (Joins frame Awaits) ((items.map text).map encode) (items.map ([·])) := by
    rw [List.map_map, List.forall₂_map_left_iff, List.forall₂_map_right_iff]
    exact List.forall₂_same.mpr each
  have joined := joins_joinWith next comma awaits (by simpa using inhabited) pieces
  have order : (items.map ([·])).reverse.flatten = items.reverse := by
    rw [← List.map_reverse, ← List.flatMap_def, List.flatMap_singleton']
  rwa [order, show [0x2C] = encode [','] from rfl, ← encode_joinWith] at joined

theorem encode_enclosed (opening closing : Char) (body : List Char) :
    encode (opening :: body ++ [closing]) =
      String.utf8EncodeChar opening ++ (encode body ++ String.utf8EncodeChar closing) := by
  rw [List.cons_append, encode_cons, encode_append, encode_cons]
  simp [encode]

/-- An array is read as it was written, if its items are. -/
theorem reads_writeArray {items : List Document} (each : ∀ item ∈ items, Reads (encode item.write) item) :
    Reads (encode (array items).write) (.array items) := by
  by_cases empty : items = []
  · rw [empty]
    exact @reads_emptyArray [] nofun
  · have joins : ∀ item ∈ items, Joins .array AwaitsValue (encode item.write) [item] :=
      fun item member begun stack => each item member (.array begun :: stack)
    have reads := reads_array (joins_map write .value (fun _ _ => rfl) rfl empty joins)
    have written : encode (array items).write = 0x5B :: (encode (writeItems items) ++ [0x5D]) :=
      encode_enclosed '[' ']' (writeItems items)
    rwa [List.reverse_reverse, ← writeItems_eq_joinWith, ← written] at reads

/-- A member is read as it was written, if its value is. -/
theorem joins_writeMember {member : Option String × Document} (reads : Reads (encode member.2.write) member.2) :
    Joins .object AwaitsName (encode (writeMember member)) [member] := by
  have bare (text : List UInt8) : (Padded.bare text).text = text := by simp [Padded.bare, Padded.text]
  have joins := @joins_member member.2 (.bare (encode (writeString member.1)), .bare (encode member.2.write)) member.1
    (readsString_writeString member.1) reads (Padded.spaced_bare _) (Padded.spaced_bare _)
  rw [memberText, bare, bare] at joins
  rw [writeMember, encode_append, encode_cons]
  exact joins

/-- An object is read as it was written, if its values are. -/
theorem reads_writeObject {members : List (Option String × Document)}
    (each : ∀ member ∈ members, Reads (encode member.2.write) member.2) :
    Reads (encode (object members).write) (.object members) := by
  by_cases empty : members = []
  · rw [empty]
    exact @reads_emptyObject [] nofun
  · have joins : ∀ member ∈ members, Joins .object AwaitsName (encode (writeMember member)) [member] :=
      fun member isMember => joins_writeMember (each member isMember)
    have reads := reads_object (joins_map writeMember .name (fun _ _ => rfl) rfl empty joins)
    have written : encode (object members).write = 0x7B :: (encode (writeMembers members) ++ [0x7D]) :=
      encode_enclosed '\x7b' '\x7d' (writeMembers members)
    rwa [List.reverse_reverse, ← writeMembers_eq_joinWith, ← written] at reads

/-- A document in which each number is written as one is read as it was written, by induction on its structure. -/
theorem Numeric.reads {document : Document} (numeric : Numeric document) : Reads (encode document.write) document := by
  induction numeric with
  | null => exact reads_scalar (.word "llun".toList) (fun _ _ => rfl) rfl
  | bool value =>
    cases value with
    | false => exact reads_scalar (.word "eslaf".toList) (fun _ _ => rfl) rfl
    | true => exact reads_scalar (.word "eurt".toList) (fun _ _ => rfl) rfl
  | number numeral => exact reads_writeNumber numeral
  | string text => exact (readsString_writeString text).reads
  | array _ ih => exact reads_writeArray ih
  | object _ ih => exact reads_writeObject ih

/-- What was written is read as the document that it was written for. -/
theorem Numeric.read?_write {document : Document} (numeric : Numeric document) :
    read? (encode document.write) = some document :=
  numeric.reads.read?_eq

end Document

end Observatory
