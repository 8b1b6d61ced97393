import Observatory.Text.Decimal
import Observatory.Text.Percent
import Observatory.Text.Split

/-! # Socket addresses

An address is four decimal octets, or eight hexadecimal groups in brackets, with a port behind. A reader
takes as much text as belongs to its part and leaves the rest. Where a part may be written in two ways
the longer notation is tried first: a dotted quad goes before a group.
-/

namespace Observatory.Net

/-- Four octets. -/
structure Quad where
  a : UInt8
  b : UInt8
  c : UInt8
  d : UInt8
deriving DecidableEq, Repr

inductive SocketAddress where
  | v4 (address : Quad) (port : UInt16)
  | v6 (groups : List UInt16) (scope : UInt32) (port : UInt16)
deriving DecidableEq, Repr

/-! ## Reading -/

/-- A reader of one part, with the text that follows it. -/
abbrev Reader (α : Type) := List Char → Option (α × List Char)

/-- One given character. -/
def readChar? (expected : Char) : Reader Unit
  | c :: rest => if c = expected then some ((), rest) else none
  | [] => none

/-- The value of digits in a base, the first one first. -/
def valueOf (base : Nat) (digits : List Nat) : Nat :=
  digits.foldl (fun value digit => value * base + digit) 0

/-- The digits in a base that the text begins with. -/
def readRun? (base : Nat) (text : List Char) : Option (List Nat × List Char) :=
  let digit? (c : Char) : Option Nat := (Text.hexDigit? c).filter (· < base)
  let digits := text.takeWhile fun c => (digit? c).isSome
  if digits.isEmpty then none else some (digits.filterMap digit?, text.drop digits.length)

/-- A number of at most `limit`. All digits that stand there belong to it. -/
def readNumber? (base limit : Nat) : Reader Nat := fun text => do
  let (digits, rest) ← readRun? base text
  if valueOf base digits ≤ limit then some (valueOf base digits, rest) else none

/-- At most three digits, without a leading zero. -/
def readOctet? : Reader UInt8 := fun text => do
  let (digits, rest) ← readRun? 10 text
  if digits.length ≤ 3 && (digits.length = 1 || digits.head? ≠ some 0) && valueOf 10 digits ≤ 255 then
    some ((valueOf 10 digits).toUInt8, rest)
  else none

def readQuad? : Reader Quad := fun text => do
  let (a, text) ← readOctet? text
  let (_, text) ← readChar? '.' text
  let (b, text) ← readOctet? text
  let (_, text) ← readChar? '.' text
  let (c, text) ← readOctet? text
  let (_, text) ← readChar? '.' text
  let (d, text) ← readOctet? text
  return (⟨a, b, c, d⟩, text)

/-- At most four hexadecimal digits. -/
def readGroup? : Reader UInt16 := fun text => do
  let (digits, rest) ← readRun? 16 text
  if digits.length ≤ 4 then some ((valueOf 16 digits).toUInt16, rest) else none

/-- The two groups that a dotted quad stands for. -/
def Quad.groups (quad : Quad) : List UInt16 :=
  [quad.a.toUInt16 * 256 + quad.b.toUInt16, quad.c.toUInt16 * 256 + quad.d.toUInt16]

/-- A part behind a colon, or at the very beginning. -/
def readAfterColon? {α : Type} (isFirst : Bool) (read : Reader α) : Reader α := fun text =>
  if isFirst then read text
  else do
    let (_, text) ← readChar? ':' text
    read text

/-- At most `room` groups, the last two possibly as a dotted quad. The answer tells whether they were. -/
def readGroups (isFirst : Bool) : Nat → List Char → (List UInt16 × Bool) × List Char
  | 0, text => (([], false), text)
  | room + 1, text =>
      let quad? := if 0 < room then readAfterColon? isFirst readQuad? text else none
      match quad? with
      | some (quad, rest) => ((quad.groups, true), rest)
      | none =>
          match readAfterColon? isFirst readGroup? text with
          | none => (([], false), text)
          | some (group, rest) =>
              let ((groups, hasQuad), rest) := readGroups false room rest
              ((group :: groups, hasQuad), rest)

/-- Eight groups, of which a run of zeros may be left out. -/
def readAllGroups? : Reader (List UInt16) := fun text => do
  let ((front, hasQuad), text) := readGroups true 8 text
  if front.length = 8 then some (front, text)
  else if hasQuad then none
  else
    let (_, text) ← readChar? ':' text
    let (_, text) ← readChar? ':' text
    let ((back, _), text) := readGroups true (7 - front.length) text
    return (front ++ List.replicate (8 - front.length - back.length) 0 ++ back, text)

def readPort? : Reader UInt16 := fun text => do
  let (_, text) ← readChar? ':' text
  let (port, text) ← readNumber? 10 (UInt16.size - 1) text
  return (port.toUInt16, text)

/-- The number behind a percent sign, zero if there is none. -/
def readScope : List Char → UInt32 × List Char := fun text =>
  let scope? := do
    let (_, text) ← readChar? '%' text
    readNumber? 10 (UInt32.size - 1) text
  match scope? with
  | some (scope, rest) => (scope.toUInt32, rest)
  | none => (0, text)

namespace SocketAddress

def readV4? : Reader SocketAddress := fun text => do
  let (quad, text) ← readQuad? text
  let (port, text) ← readPort? text
  return (.v4 quad port, text)

def readV6? : Reader SocketAddress := fun text => do
  let (_, text) ← readChar? '[' text
  let (groups, text) ← readAllGroups? text
  let (scope, text) := readScope text
  let (_, text) ← readChar? ']' text
  let (port, text) ← readPort? text
  return (.v6 groups scope port, text)

/-- An address with nothing before or behind it. -/
def read? (text : List Char) : Option SocketAddress :=
  match (readV4? text).or (readV6? text) with
  | some (address, []) => some address
  | _ => none

/-! ## Writing -/

def decimalText (n : Nat) : List Char := Text.decimal n

def quadText (quad : Quad) : List Char :=
  Text.joinWith ['.'] ([quad.a, quad.b, quad.c, quad.d].map (decimalText ·.toNat))

def groupsText (groups : List UInt16) : List Char :=
  Text.joinWith [':'] (groups.map (Nat.toDigits 16 ·.toNat))

/-- How many zeros a list begins with. -/
def zerosAt (groups : List UInt16) : Nat :=
  (groups.takeWhile (· = 0)).length

/-- Where the longest run of zeros begins, and its length; the first one of several. -/
def longestZeros (groups : List UInt16) : Nat × Nat :=
  (List.range groups.length).foldl
    (fun best start =>
      let length := zerosAt (groups.drop start)
      if best.2 < length then (start, length) else best)
    (0, 0)

/-- Groups with their longest run of zeros left out, if it has at least two. An address that embeds a
dotted quad shows it. -/
def addressText (groups : List UInt16) : List Char :=
  match groups with
  | [0, 0, 0, 0, 0, 0xFFFF, high, low] =>
      "::ffff:".toList ++
        quadText ⟨(high / 256).toUInt8, high.toUInt8, (low / 256).toUInt8, low.toUInt8⟩
  | _ =>
      let (start, length) := longestZeros groups
      if 1 < length then
        groupsText (groups.take start) ++ "::".toList ++ groupsText (groups.drop (start + length))
      else groupsText groups

def text : SocketAddress → List Char
  | .v4 address port => quadText address ++ ':' :: decimalText port.toNat
  | .v6 groups scope port =>
      let zone := if scope = 0 then [] else '%' :: decimalText scope.toNat
      '[' :: addressText groups ++ zone ++ "]:".toList ++ decimalText port.toNat

end SocketAddress

end Observatory.Net
