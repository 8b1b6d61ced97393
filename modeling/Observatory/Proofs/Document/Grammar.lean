import Observatory.Document.Token
import Observatory.Proofs.Text.Utf8
import Mathlib.Tactic.FinCases

/-! # Well-formed texts

The grammar of documents, independent of the machine that reads them. A number has its grammar in the same way, and
the check on collected literals accepts whatever that grammar allows.
-/

namespace Observatory.Document

open Text (joinWith)
open Text.Utf8 (asciiChar encode)

/-! ## Grammar -/

/-- White space. -/
def IsGap (text : List UInt8) : Prop :=
  ∀ byte ∈ text, byte ∈ encode " \t\n\r".toList

/-- One character of a string, or one escape. -/
inductive StringPart : List UInt8 → Prop
  | plain {byte : UInt8} (printable : 0x20 ≤ byte) (notQuote : byte ≠ 0x22) (notEscape : byte ≠ 0x5C) :
      StringPart [byte]
  | short {byte : UInt8} (known : byte ∈ encode "\"\\/bfnrt".toList) : StringPart [0x5C, byte]
  | unit {digits : List UInt8} (four : digits.length = 4)
      (hex : ∀ digit ∈ digits, digit ∈ encode "0123456789ABCDEFabcdef".toList) :
      StringPart (0x5C :: 0x75 :: digits)

def StringText (text : List UInt8) : Prop :=
  ∃ parts : List (List UInt8), (∀ part ∈ parts, StringPart part) ∧ text = 0x22 :: (parts.flatten ++ [0x22])

/-- A string with nothing to escape. -/
def quotedText (body : String) : List UInt8 :=
  0x22 :: (encode body.toList ++ [0x22])

/-- A text without special characters is a string when it is quoted. -/
theorem stringText_quotedText {body : String}
    (plain : (encode body.toList).all fun byte => 0x20 ≤ byte && byte != 0x22 && byte != 0x5C) :
    StringText (quotedText body) := by
  refine ⟨(encode body.toList).map ([·]), ?_, by simp [quotedText, ← List.flatMap_def]⟩
  intro part member
  obtain ⟨byte, isByte, rfl⟩ := List.mem_map.mp member
  have allowed := List.all_eq_true.mp plain byte isByte
  simp only [Bool.and_eq_true, decide_eq_true_eq, bne_iff_ne] at allowed
  exact .plain allowed.1.1 allowed.1.2 allowed.2

/-- Digits, at least one. -/
def IsDigits (text : List Char) : Prop :=
  text ≠ [] ∧ ∀ c ∈ text, c.isDigit

/-- A leading zero stands alone. -/
def IsWhole (text : List Char) : Prop :=
  text = ['0'] ∨ IsDigits text ∧ text.head? ≠ some '0'

def IsFraction (text : List Char) : Prop :=
  text = [] ∨ ∃ digits, IsDigits digits ∧ text = '.' :: digits

def IsExponent (text : List Char) : Prop :=
  text = [] ∨ ∃ mark ∈ ['e', 'E'], ∃ sign ∈ [[], ['+'], ['-']], ∃ digits, IsDigits digits ∧
    text = mark :: (sign ++ digits)

def IsNumeral (text : List Char) : Prop :=
  ∃ sign ∈ [[], ['-']], ∃ whole fraction exponent, IsWhole whole ∧ IsFraction fraction ∧ IsExponent exponent ∧
    text = sign ++ (whole ++ (fraction ++ exponent))

/-- A text with what stands around it. -/
structure Padded where
  before : List UInt8
  inner : List UInt8
  after : List UInt8

namespace Padded

def text (padded : Padded) : List UInt8 :=
  padded.before ++ (padded.inner ++ padded.after)

/-- Nothing but white space stands around it. -/
def Spaced (padded : Padded) : Prop :=
  IsGap padded.before ∧ IsGap padded.after

/-- A text with nothing around it. -/
def bare (inner : List UInt8) : Padded :=
  ⟨[], inner, []⟩

theorem spaced_bare (inner : List UInt8) : (bare inner).Spaced :=
  ⟨nofun, nofun⟩

end Padded

/-- A name and a value with a colon between them. -/
def memberText (member : Padded × Padded) : List UInt8 :=
  member.1.text ++ 0x3A :: member.2.text

/-- The text of a value, with no white space around it. -/
inductive ValueText : List UInt8 → Prop
  | word {text : List UInt8} (known : text ∈ ["null", "true", "false"].map fun word => encode word.toList) :
      ValueText text
  | number {text : List UInt8} (numeral : IsNumeral (text.map asciiChar)) : ValueText text
  | string {text : List UInt8} (string : StringText text) : ValueText text
  | emptyArray {gap : List UInt8} (blank : IsGap gap) : ValueText (0x5B :: (gap ++ [0x5D]))
  | array {items : List Padded} (inhabited : items ≠ []) (spaced : ∀ item ∈ items, item.Spaced)
      (values : ∀ item ∈ items, ValueText item.inner) :
      ValueText (0x5B :: (joinWith [0x2C] (items.map Padded.text) ++ [0x5D]))
  | emptyObject {gap : List UInt8} (blank : IsGap gap) : ValueText (0x7B :: (gap ++ [0x7D]))
  | object {members : List (Padded × Padded)} (inhabited : members ≠ [])
      (names : ∀ member ∈ members, member.1.Spaced ∧ StringText member.1.inner)
      (spaced : ∀ member ∈ members, member.2.Spaced) (values : ∀ member ∈ members, ValueText member.2.inner) :
      ValueText (0x7B :: (joinWith [0x2C] (members.map memberText) ++ [0x7D]))

/-- The text of a document: a value with white space around it. -/
def WellFormed (text : List UInt8) : Prop :=
  ∃ padded : Padded, padded.Spaced ∧ ValueText padded.inner ∧ text = padded.text

/-! ## Numbers -/

/-- Digits are dropped up to what is none. -/
private theorem dropDigits?_append {digits rest : List Char} (isDigits : IsDigits digits)
    (ends : ∀ c, rest.head? = some c → c.isDigit = false) : dropDigits? (digits ++ rest) = some rest := by
  have dropped : (digits ++ rest).dropWhile Char.isDigit = rest := by
    rw [List.dropWhile_append_of_pos isDigits.2]
    cases rest with
    | nil => rfl
    | cons c more => exact List.dropWhile_cons_of_neg (by simp [ends c rfl])
  have longer : rest.length ≠ (digits ++ rest).length := by
    have := List.length_pos_of_ne_nil isDigits.1
    rw [List.length_append]
    omega
  simp only [dropDigits?, dropped, if_neg longer]

private theorem dropDigits?_self {digits : List Char} (isDigits : IsDigits digits) : dropDigits? digits = some [] := by
  have dropped := @dropDigits?_append digits [] isDigits (by simp)
  rwa [List.append_nil] at dropped

private theorem exists_cons_of_isDigits {digits : List Char} (isDigits : IsDigits digits) :
    ∃ first rest, digits = first :: rest ∧ first.isDigit := by
  obtain ⟨nonempty, all⟩ := isDigits
  obtain ⟨first, rest, rfl⟩ := List.exists_cons_of_ne_nil nonempty
  exact ⟨first, rest, rfl, all first List.mem_cons_self⟩

theorem ne_of_isDigit {c : Char} (digit : c.isDigit) (other : Char) (notDigit : other.isDigit = false) :
    c ≠ other := by
  rintro rfl
  simp [notDigit] at digit

/-- What follows the whole part of a number begins with no digit. -/
private theorem head?_tail {fraction exponent : List Char} (isFraction : IsFraction fraction)
    (isExponent : IsExponent exponent) : ∀ c, (fraction ++ exponent).head? = some c → c.isDigit = false := by
  intro c first
  rcases isFraction with rfl | ⟨digits, -, rfl⟩
  · rcases isExponent with rfl | ⟨mark, known, sign, -, digits, -, rfl⟩
    · contradiction
    · obtain rfl := Option.some.inj first
      fin_cases known <;> rfl
  · obtain rfl := Option.some.inj first
    rfl

/-- An exponent may end a number. -/
private theorem isNumberTail_exponent {exponent : List Char} (isExponent : IsExponent exponent) :
    isNumberTail exponent := by
  rcases isExponent with rfl | ⟨mark, known, sign, signed, digits, isDigits, rfl⟩
  · rfl
  · obtain ⟨first, rest, rfl, digit⟩ := exists_cons_of_isDigits isDigits
    have notPlus := ne_of_isDigit digit '+' rfl
    have notMinus := ne_of_isDigit digit '-' rfl
    fin_cases known <;> fin_cases signed <;>
      simp [isNumberTail, dropDigits?_self isDigits, notPlus, notMinus]

private theorem isNumberTail_fraction {fraction exponent : List Char} (isFraction : IsFraction fraction)
    (isExponent : IsExponent exponent) : isNumberTail (fraction ++ exponent) := by
  rcases isFraction with rfl | ⟨digits, isDigits, rfl⟩
  · exact isNumberTail_exponent isExponent
  · have dropped := dropDigits?_append isDigits (head?_tail (.inl rfl) isExponent)
    have tail := isNumberTail_exponent isExponent
    rcases isExponent with rfl | ⟨mark, known, sign, -, rest, -, rfl⟩
    · simp_all [isNumberTail]
    · fin_cases known <;> simp_all [isNumberTail]

/-- What the grammar calls a number is accepted as one. -/
theorem isNumber_of_isNumeral {text : List Char} (numeral : IsNumeral text) : isNumber text := by
  obtain ⟨sign, signed, whole, fraction, exponent, isWhole, isFraction, isExponent, rfl⟩ := numeral
  have tail := isNumberTail_fraction isFraction isExponent
  rcases isWhole with rfl | ⟨isDigits, notZero⟩
  · fin_cases signed <;> exact tail
  · have dropped := dropDigits?_append isDigits (head?_tail isFraction isExponent)
    obtain ⟨first, rest, rfl, digit⟩ := exists_cons_of_isDigits isDigits
    have notMinus := ne_of_isDigit digit '-' rfl
    have notLeading : first ≠ '0' := fun zero => notZero (congrArg some zero)
    fin_cases signed <;> simp_all [isNumber]

private theorem IsDigits.parts {digits : List Char} (isDigits : IsDigits digits) : ∀ c ∈ digits, isNumberPart c := by
  intro c member
  simp [isNumberPart, isDigits.2 c member]

/-- The whole part has nothing but digits, and begins with one. -/
private theorem IsWhole.parts {whole : List Char} (isWhole : IsWhole whole) :
    (∀ c ∈ whole, isNumberPart c) ∧ ∃ first rest, whole = first :: rest ∧ first.isDigit := by
  rcases isWhole with rfl | ⟨isDigits, -⟩
  · exact ⟨List.forall_mem_singleton.mpr rfl, '0', [], rfl, rfl⟩
  · exact ⟨isDigits.parts, exists_cons_of_isDigits isDigits⟩

private theorem IsFraction.parts {fraction : List Char} (isFraction : IsFraction fraction) :
    ∀ c ∈ fraction, isNumberPart c := by
  rcases isFraction with rfl | ⟨digits, isDigits, rfl⟩
  · nofun
  · exact List.forall_mem_cons.mpr ⟨rfl, isDigits.parts⟩

private theorem IsExponent.parts {exponent : List Char} (isExponent : IsExponent exponent) :
    ∀ c ∈ exponent, isNumberPart c := by
  rcases isExponent with rfl | ⟨mark, known, sign, signed, digits, isDigits, rfl⟩
  · nofun
  · refine List.forall_mem_cons.mpr ⟨?_, List.forall_mem_append.mpr ⟨?_, isDigits.parts⟩⟩
    · fin_cases known <;> rfl
    · fin_cases signed
      · nofun
      · exact List.forall_mem_singleton.mpr rfl
      · exact List.forall_mem_singleton.mpr rfl

/-- A number is made of number characters, and the first of them begins one. -/
theorem IsNumeral.parts {text : List Char} (numeral : IsNumeral text) :
    (∀ c ∈ text, isNumberPart c) ∧ ∃ first rest, text = first :: rest ∧ (first.isDigit ∨ first = '-') := by
  obtain ⟨sign, signed, whole, fraction, exponent, isWhole, isFraction, isExponent, rfl⟩ := numeral
  obtain ⟨wholeParts, first, rest, rfl, digit⟩ := isWhole.parts
  have tailParts := List.forall_mem_append.mpr ⟨isFraction.parts, isExponent.parts⟩
  have unsigned := List.forall_mem_append.mpr ⟨wholeParts, tailParts⟩
  fin_cases signed
  · exact ⟨unsigned, first, _, rfl, .inl digit⟩
  · exact ⟨List.forall_mem_cons.mpr ⟨rfl, unsigned⟩, '-', _, rfl, .inr rfl⟩

end Observatory.Document
