import Observatory.Text.Utf8

/-! # Percent-encoded text

A percent sign with two hexadecimal digits stands for a byte. Any other percent sign stands for itself.
-/

namespace Observatory.Text

def hexDigit? (c : Char) : Option Nat :=
  if '0' ≤ c ∧ c ≤ '9' then some (c.toNat - '0'.toNat)
  else if 'a' ≤ c ∧ c ≤ 'f' then some (c.toNat - 'a'.toNat + 10)
  else if 'A' ≤ c ∧ c ≤ 'F' then some (c.toNat - 'A'.toNat + 10)
  else none

/-- The byte that two hexadecimal digits stand for. -/
def hexByte? (high low : Char) : Option UInt8 := do
  return (16 * (← hexDigit? high) + (← hexDigit? low)).toUInt8

/-- The bytes that percent-encoded text stands for, leaving out the next `skip` characters, which belong
to the byte just found. -/
def percentBytesFrom : Nat → List Char → List UInt8
  | _, [] => []
  | skip + 1, _ :: rest => percentBytesFrom skip rest
  | 0, c :: rest =>
      match c, rest with
      | '%', high :: low :: _ =>
          match hexByte? high low with
          | some byte => byte :: percentBytesFrom 2 rest
          | none => Utf8.encode [c] ++ percentBytesFrom 0 rest
      | _, _ => Utf8.encode [c] ++ percentBytesFrom 0 rest

/-- The text behind percent-encoded text, if its bytes are text at all. -/
def percentDecode? (text : List Char) : Option (List Char) :=
  Utf8.decode? (percentBytesFrom 0 text)

end Observatory.Text
