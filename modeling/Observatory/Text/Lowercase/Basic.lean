import Observatory.Text.Lowercase.Context
import Observatory.Text.Lowercase.Mapping

/-! # Lowercase text

Full lowercasing, independent of language. The dotted capital I becomes two characters, and a capital
sigma takes its final form at the end of a word: after a letter, and with no letter to follow.
-/

namespace Observatory.Text

def inRanges (ranges : List (Nat × Nat)) (c : Char) : Bool :=
  ranges.any fun (first, last) => first ≤ c.toNat && c.toNat ≤ last

/-- The run applies to this character. -/
def LowercaseRun.covers (run : LowercaseRun) (c : Char) : Bool :=
  run.first ≤ c.toNat && c.toNat ≤ run.last && (c.toNat - run.first) % run.step == 0

/-- The lowercase form of a character on its own. -/
def lowercaseChar (c : Char) : Char :=
  if c.toNat < 0x80 then c.toLower
  else
    match lowercaseRuns.find? (·.covers c) with
    | some run => Char.ofNat (run.target + (c.toNat - run.first))
    | none => c

/-- The nearest character that is not passed over has a case. -/
def meetsCased (neighbours : List Char) : Bool :=
  match neighbours.dropWhile (inRanges caseIgnorableRanges) with
  | [] => false
  | c :: _ => inRanges casedRanges c

/-- Lowercase the rest of a text, given what stands before it in reverse. -/
def lowercaseFrom : List Char → List Char → List Char
  | _, [] => []
  | before, c :: rest =>
      let small :=
        if c = 'Σ' then if meetsCased before && !meetsCased rest then ['ς'] else ['σ']
        else if c = 'İ' then ['i', '\u0307']
        else [lowercaseChar c]
      small ++ lowercaseFrom (c :: before) rest

def lowercase (text : List Char) : List Char :=
  lowercaseFrom [] text

end Observatory.Text
