import Observatory.Accumulator
import Observatory.Proofs.Text.Utf8
import Mathlib.Data.List.DropRight

/-! # Streams of lines

A stream is read byte by byte, and a line is decoded together with the newline that ends it. The newline gives up
a character that has begun before it and is then cut off with the other line ends, so the text of a line is that
of its bytes without the newline. Main statement: a stream is taken in as its lines are, one after the other, and
so are two streams with a newline between them.
-/

namespace Observatory.Accumulator

open Text

variable {acc : Accumulator} {line begun : List UInt8} {lines : List (List UInt8)}

/-- The bytes between newlines. The last of these lines is what follows the last newline. -/
def byteLines (bytes : List UInt8) : List (List UInt8) :=
  splitOn [newline] bytes

theorem unbordered_newline : Unbordered [newline] := by decide

/-- Lines are what stands between the ends of lines. -/
theorem joinWith_byteLines (bytes : List UInt8) :
    joinWith [newline] (byteLines bytes) = bytes ∧ ∀ line ∈ byteLines bytes, newline ∉ line := by
  simpa only [List.singleton_infix_iff, byteLines] using joinWith_splitOn unbordered_newline.1 bytes

theorem byteLines_ne_nil (bytes : List UInt8) : byteLines bytes ≠ [] :=
  splitOn_ne_nil unbordered_newline.1 bytes

theorem byteLines_append (before after : List UInt8) :
    byteLines (before ++ newline :: after) = byteLines before ++ byteLines after :=
  unbordered_newline.splitOn_append_append before after

/-! ## One line -/

theorem lineText_eq (bytes : List UInt8) : lineText bytes = (Utf8.decodeLossy bytes).rdropWhile isLineEnd :=
  rfl

/-- The newline leaves no trace in the text, whatever has begun before it. -/
theorem lineText_concat (bytes : List UInt8) : lineText (bytes ++ [newline]) = lineText bytes := by
  have ascii : Utf8.IsAscii newline := by decide
  rw [lineText_eq, Utf8.decodeLossy_append_cons ascii, Utf8.decodeLossy_nil, List.rdropWhile_concat_pos _ _ _ rfl]
  rfl

theorem ingestBytes_concat (acc : Accumulator) (bytes : List UInt8) :
    acc.ingestBytes (bytes ++ [newline]) = acc.ingestBytes bytes := by
  rw [ingestBytes, lineText_concat]
  rfl

/-- Lines that have no text are passed over. -/
theorem foldl_ingestBytes (acc : Accumulator) (lines : List (List UInt8)) :
    lines.foldl ingestBytes acc = acc.ingestAll ((lines.map lineText).filter (· ≠ [])) := by
  rw [ingestAll, List.foldl_filter, List.foldl_map]
  congr
  funext acc line
  simp [ingestBytes]

/-! ## One byte after the other -/

theorem foldl_feed (free : newline ∉ line) :
    line.foldl Reading.feed ⟨acc, begun⟩ = ⟨acc, line.reverse ++ begun⟩ := by
  induction line generalizing begun with
  | nil => rfl
  | cons byte line ih =>
    rw [List.mem_cons, not_or] at free
    rw [List.foldl_cons, Reading.feed, if_neg (Ne.symm free.1), ih free.2, List.reverse_cons, List.append_assoc]
    rfl

/-- Bytes without an end of line are one line. -/
theorem consume_line (free : newline ∉ line) : acc.consume line = acc.ingestBytes line := by
  rw [consume, readBytes, foldl_feed free, List.append_nil, List.reverse_reverse]

/-- The first line is taken in, and then what follows it is read as a stream of its own. -/
theorem consume_line_append (free : newline ∉ line) (rest : List UInt8) :
    acc.consume (line ++ newline :: rest) = (acc.ingestBytes line).consume rest := by
  have ended : Reading.feed ⟨acc, line.reverse⟩ newline = ⟨acc.ingestBytes line, []⟩ := by
    rw [Reading.feed, if_pos rfl, List.reverse_cons, List.reverse_reverse, ingestBytes_concat]
  rw [consume, readBytes, List.foldl_append, foldl_feed free, List.append_nil, List.foldl_cons, ended]
  rfl

theorem consume_joinWith (solid : lines ≠ []) (free : ∀ line ∈ lines, newline ∉ line) :
    acc.consume (joinWith [newline] lines) = lines.foldl ingestBytes acc := by
  induction lines generalizing acc with
  | nil => contradiction
  | cons line others ih =>
    obtain ⟨here, later⟩ := List.forall_mem_cons.mp free
    by_cases last : others = []
    · rw [last, joinWith, consume_line here]
      rfl
    · rw [joinWith_cons last, List.singleton_append, consume_line_append here, ih last later, List.foldl_cons]

/-- To consume bytes is to ingest their lines one by one. -/
theorem consume_eq (acc : Accumulator) (bytes : List UInt8) :
    acc.consume bytes = (byteLines bytes).foldl ingestBytes acc := by
  obtain ⟨joined, free⟩ := joinWith_byteLines bytes
  rw [← consume_joinWith (byteLines_ne_nil bytes) free, joined]

/-- A stream leaves the accumulator as the texts of its lines do, in order and without the empty ones. The lines
are what stands between newlines, and the last one needs none. A newline between two streams makes one of them. -/
theorem consume_by_lines (acc : Accumulator) (bytes before after : List UInt8) :
    acc.consume bytes =
        acc.ingestAll (((byteLines bytes).map fun line =>
          (Utf8.decodeLossy line).rdropWhile isLineEnd).filter (· ≠ [])) ∧
      joinWith [newline] (byteLines bytes) = bytes ∧ (∀ line ∈ byteLines bytes, newline ∉ line) ∧
      acc.consume (before ++ newline :: after) = (acc.consume before).consume after := by
  obtain ⟨joined, free⟩ := joinWith_byteLines bytes
  refine ⟨?_, joined, free, ?_⟩
  · rw [consume_eq, foldl_ingestBytes]
    rfl
  · rw [consume_eq, consume_eq, consume_eq, byteLines_append, List.foldl_append]

end Observatory.Accumulator
