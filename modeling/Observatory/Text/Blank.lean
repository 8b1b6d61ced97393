/-! # White space

The characters with the White_Space property, and the two operations that depend on them: trimming
both ends of a text, and taking a text apart into its words.
-/

namespace Observatory.Text

/-- The White_Space property. The zero-width space and the byte order mark do not have it. -/
def isBlank (c : Char) : Bool :=
  let n := c.toNat
  (0x09 ≤ n && n ≤ 0x0D) || n == 0x20 || n == 0x85 || n == 0xA0 || n == 0x1680 ||
    (0x2000 ≤ n && n ≤ 0x200A) || n == 0x2028 || n == 0x2029 || n == 0x202F || n == 0x205F ||
    n == 0x3000

def trimStart (text : List Char) : List Char :=
  text.dropWhile isBlank

def trimEnd (text : List Char) : List Char :=
  (text.reverse.dropWhile isBlank).reverse

def trim (text : List Char) : List Char :=
  trimEnd (trimStart text)

/-- The pieces between single white space characters, empty ones included. -/
def blankPieces : List Char → List (List Char)
  | [] => [[]]
  | c :: rest => if isBlank c then [] :: blankPieces rest else (blankPieces rest).modifyHead (c :: ·)

/-- The maximal runs of characters that are not white space. -/
def words (text : List Char) : List (List Char) :=
  (blankPieces text).filter (!·.isEmpty)

end Observatory.Text
