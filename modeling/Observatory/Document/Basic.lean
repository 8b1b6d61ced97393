import Observatory.Text.Decimal

/-! # Documents

Structured documents as the scanners, the registries and the cluster exchange them. A document keeps
the order and the repetitions of its members, because the rules for reading records depend on both.
A string whose bytes or escapes are no Unicode text is kept as `none`: it may stand wherever its
contents are not looked at.
-/

namespace Observatory

inductive Document where
  | null
  | bool (value : Bool)
  | number (literal : List Char)
  | string (text : Option String)
  | array (items : List Document)
  | object (members : List (Option String × Document))
deriving Repr

namespace Document

def text (text : String) : Document :=
  .string (some text)

def nat (n : Nat) : Document :=
  .number (Text.decimal n)

/-- An object with readable names. -/
def record (members : List (String × Document)) : Document :=
  .object (members.map fun (name, value) => (some name, value))

/-- Text that can be read. -/
def text? : Document → Option String
  | .string text => text
  | _ => none

def bool? : Document → Option Bool
  | .bool value => some value
  | _ => none

/-- A whole number without sign, fraction or exponent. -/
def nat? : Document → Option Nat
  | .number literal =>
      match Text.readDigits (UInt64.size - 1) 0 literal with
      | .ok value => some value
      | .error _ => none
  | _ => none

/-- Every item of an array. -/
def list? {α : Type} (item? : Document → Option α) : Document → Option (List α)
  | .array items => items.mapM item?
  | _ => none

end Document

end Observatory
