import Observatory.Document.Basic
import Observatory.Text.Utf8

/-! # Tokens of a document

Bytes are taken apart by a machine that reads one byte at a time. A string is collected as bytes, its
escapes already resolved; it is readable if the bytes are UTF-8 and no surrogate escape stands without
its partner. Whether the tokens form a document is not decided here.
-/

namespace Observatory.Document

inductive Token where
  | arrayOpen
  | arrayClose
  | objectOpen
  | objectClose
  | comma
  | colon
  | string (text : Option String)
  | scalar (value : Document)
deriving Repr

/-- Where the reader stands inside a string. -/
inductive StringPlace where
  | plain
  | escape
  | hex (left : Nat) (value : Nat)
deriving DecidableEq, Repr

/-- A string being read: its bytes so far in reverse, whether all escapes were characters, and a
leading surrogate that waits for its partner. -/
structure OpenString where
  place : StringPlace
  bytes : List UInt8
  paired : Bool
  surrogate : Option Nat
deriving DecidableEq, Repr

inductive Lexeme where
  | gap
  | string (open_ : OpenString)
  | number (literal : List Char)
  | word (letters : List Char)
deriving DecidableEq, Repr

namespace OpenString

def empty : OpenString := ⟨.plain, [], true, none⟩

/-- Add bytes of whole characters. A surrogate that was waiting has no partner. -/
def push (s : OpenString) (bytes : List UInt8) : OpenString :=
  ⟨.plain, bytes.reverse ++ s.bytes, s.paired && s.surrogate.isNone, none⟩

def pushChar (s : OpenString) (c : Char) : OpenString :=
  s.push (String.utf8EncodeChar c)

/-- Add a code unit that was written as an escape. -/
def pushUnit (s : OpenString) (unit : Nat) : OpenString :=
  if 0xD800 ≤ unit ∧ unit ≤ 0xDBFF then
    ⟨.plain, s.bytes, s.paired && s.surrogate.isNone, some unit⟩
  else if 0xDC00 ≤ unit ∧ unit ≤ 0xDFFF then
    match s.surrogate with
    | some leading =>
        { s with surrogate := none }.pushChar
          (Char.ofNat (0x10000 + (leading - 0xD800) * 0x400 + (unit - 0xDC00)))
    | none => ⟨.plain, s.bytes, false, none⟩
  else s.pushChar (Char.ofNat unit)

/-- The text of a finished string, if it is one. -/
def text? (s : OpenString) : Option String :=
  if s.paired && s.surrogate.isNone then (Text.Utf8.decode? s.bytes.reverse).map String.ofList else none

end OpenString

def hexDigit? (byte : UInt8) : Option Nat :=
  let b := byte.toNat
  if 0x30 ≤ b ∧ b ≤ 0x39 then some (b - 0x30)
  else if 0x41 ≤ b ∧ b ≤ 0x46 then some (b - 0x41 + 10)
  else if 0x61 ≤ b ∧ b ≤ 0x66 then some (b - 0x61 + 10)
  else none

/-- The characters that have an escape of their own. -/
def shortEscape? (byte : UInt8) : Option Char :=
  match Char.ofNat byte.toNat with
  | '"' => some '"'
  | '\\' => some '\\'
  | '/' => some '/'
  | 'b' => some '\x08'
  | 'f' => some '\x0c'
  | 'n' => some '\n'
  | 'r' => some '\r'
  | 't' => some '\t'
  | _ => none

/-- One byte inside a string: the string goes on, or it is finished, or the byte may not stand
there. -/
def OpenString.step (s : OpenString) (byte : UInt8) : Option (OpenString ⊕ Option String) :=
  match s.place with
  | .plain =>
      if byte = 0x22 then some (.inr s.text?)
      else if byte = 0x5C then some (.inl { s with place := .escape })
      else if byte < 0x20 then none
      else some (.inl (s.push [byte]))
  | .escape =>
      if byte = 0x75 then some (.inl { s with place := .hex 3 0 })
      else (shortEscape? byte).map fun c => .inl (s.pushChar c)
  | .hex left value =>
      (hexDigit? byte).map fun digit =>
        match left with
        | 0 => .inl (s.pushUnit (value * 16 + digit))
        | left + 1 => .inl { s with place := .hex left (value * 16 + digit) }

/-- Drop the digits in front; `none` if there are none. -/
def dropDigits? (text : List Char) : Option (List Char) :=
  match text.dropWhile Char.isDigit with
  | rest => if rest.length = text.length then none else some rest

/-- An optional fraction and an optional exponent, and nothing else. -/
def isNumberTail (text : List Char) : Bool :=
  let afterFraction :=
    match text with
    | '.' :: rest => dropDigits? rest
    | _ => some text
  match afterFraction with
  | none => false
  | some [] => true
  | some (e :: rest) =>
      (e == 'e' || e == 'E') &&
        match rest with
        | '+' :: digits | '-' :: digits => dropDigits? digits == some []
        | digits => dropDigits? digits == some []

/-- A number literal: no plus sign, no leading zero, digits around a point. -/
def isNumber (literal : List Char) : Bool :=
  let unsigned :=
    match literal with
    | '-' :: rest => rest
    | _ => literal
  match unsigned with
  | '0' :: rest => isNumberTail rest
  | _ =>
      match dropDigits? unsigned with
      | some rest => isNumberTail rest
      | none => false

/-- Characters that can stand in a number literal. -/
def isNumberPart (c : Char) : Bool :=
  c.isDigit || c == '-' || c == '+' || c == '.' || c == 'e' || c == 'E'

/-- The token a collected number or word stands for. -/
def Lexeme.finish? : Lexeme → Option (List Token)
  | .gap => some []
  | .string _ => none
  | .number literal =>
      if isNumber literal.reverse then some [.scalar (.number literal.reverse)] else none
  | .word letters =>
      match String.ofList letters.reverse with
      | "null" => some [.scalar .null]
      | "true" => some [.scalar (.bool true)]
      | "false" => some [.scalar (.bool false)]
      | _ => none

/-- One byte between tokens. -/
def start? (byte : UInt8) : Option (List Token × Lexeme) :=
  let c := Char.ofNat byte.toNat
  if c == ' ' || c == '\t' || c == '\n' || c == '\r' then some ([], .gap)
  else if c == '[' then some ([.arrayOpen], .gap)
  else if c == ']' then some ([.arrayClose], .gap)
  else if c == '\x7b' then some ([.objectOpen], .gap)
  else if c == '\x7d' then some ([.objectClose], .gap)
  else if c == ',' then some ([.comma], .gap)
  else if c == ':' then some ([.colon], .gap)
  else if c == '"' then some ([], .string .empty)
  else if c.isDigit || c == '-' then some ([], .number [c])
  else if c.isLower then some ([], .word [c])
  else none

/-- One byte: the tokens it completes and the lexeme that goes on after it. -/
def Lexeme.step? : Lexeme → UInt8 → Option (List Token × Lexeme)
  | .gap, byte => start? byte
  | .string s, byte =>
      (s.step byte).map fun
        | .inl s => ([], .string s)
        | .inr text => ([.string text], .gap)
  | .number literal, byte =>
      let c := Char.ofNat byte.toNat
      if isNumberPart c then some ([], .number (c :: literal))
      else do
        let finished ← (Lexeme.number literal).finish?
        let (tokens, next) ← start? byte
        return (finished ++ tokens, next)
  | .word letters, byte =>
      let c := Char.ofNat byte.toNat
      if c.isLower then some ([], .word (c :: letters))
      else do
        let finished ← (Lexeme.word letters).finish?
        let (tokens, next) ← start? byte
        return (finished ++ tokens, next)

end Observatory.Document
