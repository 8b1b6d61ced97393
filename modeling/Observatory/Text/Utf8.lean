/-! # UTF-8

Bytes are read by a machine that owes a number of continuation bytes. Where the bytes stop being
well formed, the longest beginning of a character that was read so far is given up as one unreadable
piece, and reading starts afresh at the byte that did not fit. Strict and forgiving decoding are two
views of the same pieces, so they agree on every well-formed input.
-/

namespace Observatory.Text.Utf8

/-- A character that has begun: `owed + 1` continuation bytes follow, the first of them between `low`
and `high`, and `value` holds the bits read so far. -/
structure Unfinished where
  owed : Nat
  low : Nat
  high : Nat
  value : Nat
deriving DecidableEq, Repr

/-- A piece is a character, or `none` for a maximal unreadable beginning of one. -/
abbrev Piece := Option Char

/-- What the first byte of a character gives. -/
def first (byte : UInt8) : List Piece × Option Unfinished :=
  let b := byte.toNat
  if b ≤ 0x7F then ([some (Char.ofNat b)], none)
  else if 0xC2 ≤ b ∧ b ≤ 0xDF then ([], some ⟨0, 0x80, 0xBF, b - 0xC0⟩)
  else if b = 0xE0 then ([], some ⟨1, 0xA0, 0xBF, 0⟩)
  else if b = 0xED then ([], some ⟨1, 0x80, 0x9F, 0xD⟩)
  else if 0xE1 ≤ b ∧ b ≤ 0xEF then ([], some ⟨1, 0x80, 0xBF, b - 0xE0⟩)
  else if b = 0xF0 then ([], some ⟨2, 0x90, 0xBF, 0⟩)
  else if 0xF1 ≤ b ∧ b ≤ 0xF3 then ([], some ⟨2, 0x80, 0xBF, b - 0xF0⟩)
  else if b = 0xF4 then ([], some ⟨2, 0x80, 0x8F, 4⟩)
  else ([none], none)

/-- One byte: the pieces it completes, and what is owed after it. -/
def step : Option Unfinished → UInt8 → List Piece × Option Unfinished
  | none, byte => first byte
  | some begun, byte =>
      let b := byte.toNat
      if begun.low ≤ b ∧ b ≤ begun.high then
        let value := begun.value * 64 + (b - 0x80)
        match begun.owed with
        | 0 => ([some (Char.ofNat value)], none)
        | owed + 1 => ([], some ⟨owed, 0x80, 0xBF, value⟩)
      else
        let (pieces, next) := first byte
        (none :: pieces, next)

/-- The pieces of a byte sequence, starting with what is owed. -/
def piecesFrom : Option Unfinished → List UInt8 → List Piece
  | none, [] => []
  | some _, [] => [none]
  | state, byte :: rest =>
      let (pieces, next) := step state byte
      pieces ++ piecesFrom next rest

def pieces (bytes : List UInt8) : List Piece :=
  piecesFrom none bytes

/-- Stands for a piece that cannot be read. -/
def replacement : Char := '�'

/-- Every unreadable piece becomes one replacement character. -/
def decodeLossy (bytes : List UInt8) : List Char :=
  (pieces bytes).map (·.getD replacement)

/-- The text of a well-formed byte sequence. -/
def decode? (bytes : List UInt8) : Option (List Char) :=
  (pieces bytes).mapM id

/-- The bytes of a text. -/
def encode (text : List Char) : List UInt8 :=
  text.flatMap String.utf8EncodeChar

end Observatory.Text.Utf8
