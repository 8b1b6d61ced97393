/-! # Decimal numbers as text

Unsigned literals are an optional plus sign and at least one ASCII digit. A literal is read from the
left, and the first character that is not a digit or takes the value past the limit decides the error.
-/

namespace Observatory.Text

inductive NumberError where
  | empty
  | invalidDigit
  | tooLarge
deriving DecidableEq, Repr

def NumberError.message : NumberError → String
  | .empty => "cannot parse integer from empty string"
  | .invalidDigit => "invalid digit found in string"
  | .tooLarge => "number too large to fit in target type"

def digit? (c : Char) : Option Nat :=
  if '0' ≤ c ∧ c ≤ '9' then some (c.toNat - '0'.toNat) else none

/-- Append decimal digits to a value, never past the limit. -/
def readDigits (limit : Nat) : Nat → List Char → Except NumberError Nat
  | value, [] => .ok value
  | value, c :: rest =>
      match digit? c with
      | none => .error .invalidDigit
      | some d => if limit < value * 10 + d then .error .tooLarge else readDigits limit (value * 10 + d) rest

/-- An unsigned literal of at most `limit`. -/
def readUnsigned (limit : Nat) : List Char → Except NumberError Nat
  | [] => .error .empty
  | ['+'] => .error .invalidDigit
  | '+' :: rest => readDigits limit 0 rest
  | literal => readDigits limit 0 literal

/-- The digits of a number, with no leading zero. -/
def decimal (n : Nat) : List Char :=
  Nat.toDigits 10 n

/-- The digits of a number, filled up with leading zeros to a width. -/
def padded (width n : Nat) : List Char :=
  let digits := decimal n
  List.replicate (width - digits.length) '0' ++ digits

end Observatory.Text
