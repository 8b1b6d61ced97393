/-! # Cutting a sequence at a separator

Separators are found from the left and never overlap. Everything here is structural in the sequence,
so a cut can be evaluated on a concrete input and reasoned about by induction on it. The element type
is left open: the same cuts are made on characters and on bytes.
-/

namespace Observatory.Text

variable {α : Type} [DecidableEq α]

/-- The pattern stands somewhere in the sequence. -/
def occursIn (pattern : List α) : List α → Bool
  | [] => pattern.isEmpty
  | c :: rest => pattern.isPrefixOf (c :: rest) || occursIn pattern rest

/-- Cut at the first separator; `none` if there is none. -/
def splitOnce (separator : List α) : List α → Option (List α × List α)
  | [] => if separator.isEmpty then some ([], []) else none
  | c :: rest =>
      if separator.isPrefixOf (c :: rest) then some ([], (c :: rest).drop separator.length)
      else (splitOnce separator rest).map fun (before, after) => (c :: before, after)

/-- Cut at every separator, leaving out the next `skip` elements, which belong to the separator
just found. -/
def splitFrom (separator : List α) : Nat → List α → List (List α)
  | _, [] => [[]]
  | skip + 1, _ :: rest => splitFrom separator skip rest
  | 0, c :: rest =>
      if separator.isPrefixOf (c :: rest) then [] :: splitFrom separator (separator.length - 1) rest
      else (splitFrom separator 0 rest).modifyHead (c :: ·)

/-- The pieces between separators, at least one. The separator is not empty. -/
def splitOn (separator : List α) (sequence : List α) : List (List α) :=
  splitFrom separator 0 sequence

/-- The pieces joined again with the separator between them. -/
def joinWith (separator : List α) : List (List α) → List α
  | [] => []
  | [piece] => piece
  | piece :: rest => piece ++ separator ++ joinWith separator rest

end Observatory.Text
