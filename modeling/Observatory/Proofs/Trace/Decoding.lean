import Observatory.Proofs.Text.Lossy
import Observatory.Proofs.Trace.Grammar

/-! # Fields of bytes

The bytes of a field may be anything. The separator and the overflow marker are ASCII, so neither of them is made
or lost where unreadable bytes are replaced. Main statement: the fields of a decoded line are the decoded fields
of its bytes, what stands in one of them has no effect on the others, and a line is an overflow notice exactly if
its bytes contain those of the marker.
-/

namespace Observatory.Trace

open Text Text.Utf8

variable {field bytes : List UInt8}

def separatorBytes : List UInt8 := encode separator

def markerBytes : List UInt8 := encode overflowMarker

private theorem isAscii_separatorBytes : ∀ byte ∈ separatorBytes, IsAscii byte := by
  have checked : (separatorBytes.all fun byte => decide (IsAscii byte)) = true := by decide
  simpa using checked

private theorem isAscii_markerBytes : ∀ byte ∈ markerBytes, IsAscii byte := by
  have checked : (markerBytes.all fun byte => decide (IsAscii byte)) = true := by decide
  simpa using checked

theorem unbordered_separatorBytes : Unbordered separatorBytes := by decide

/-- The fields of the text are the texts of the fields. -/
theorem splitOn_separator_decodeLossy (bytes : List UInt8) :
    splitOn separator (decodeLossy bytes) = (splitOn separatorBytes bytes).map decodeLossy := by
  have same : decodeLossy separatorBytes = separator := by decide
  have apart := splitOn_decodeLossy (same.symm ▸ unbordered_separator) isAscii_separatorBytes bytes
  rwa [same] at apart

theorem splitOn_set (i : Nat) (absent : ¬ separatorBytes <:+: field) :
    splitOn separatorBytes (joinWith separatorBytes ((splitOn separatorBytes bytes).set i field)) =
      (splitOn separatorBytes bytes).set i field := by
  apply unbordered_separatorBytes.splitOn_joinWith
  · simpa using splitOn_ne_nil unbordered_separatorBytes.1 bytes
  · intro piece member
    rcases List.mem_or_eq_of_mem_set member with kept | rfl
    · exact (joinWith_splitOn unbordered_separatorBytes.1 bytes).2 piece kept
    · exact absent

theorem occursIn_overflowMarker_decodeLossy (bytes : List UInt8) :
    occursIn overflowMarker (decodeLossy bytes) = occursIn markerBytes bytes := by
  have same : decodeLossy markerBytes = overflowMarker := by decide
  rw [← occursIn_decodeLossy (by decide) isAscii_markerBytes, same]

/-- The fields of a decoded line are its fields decoded one by one, so new bytes for one of them, as long as they
do not contain the separator, change that field alone. The marker stands in the line exactly if its bytes do. All
this is about decoding with one replacement for each maximal part that cannot be read. -/
theorem fields_decoded_apart (bytes : List UInt8) :
    splitOn separator (decodeLossy bytes) = (splitOn separatorBytes bytes).map decodeLossy ∧
      (∀ (i : Nat) (field : List UInt8), ¬ separatorBytes <:+: field →
        splitOn separator (decodeLossy (joinWith separatorBytes ((splitOn separatorBytes bytes).set i field))) =
          (splitOn separator (decodeLossy bytes)).set i (decodeLossy field)) ∧
      occursIn overflowMarker (decodeLossy bytes) = occursIn markerBytes bytes ∧
      ∀ text, Lossy bytes text ↔ decodeLossy bytes = text := by
  refine ⟨splitOn_separator_decodeLossy bytes, fun i field absent => ?_, occursIn_overflowMarker_decodeLossy bytes,
    fun _ => lossy_iff⟩
  rw [splitOn_separator_decodeLossy, splitOn_set i absent, List.map_set, ← splitOn_separator_decodeLossy]

/-- A character breaks off right before the separator, and another one in the field that takes its place. -/
theorem fields_decoded_apart_of_truncated :
    splitOn separator (decodeLossy [0x61, 0xE2, 0x82, 0x5D, 0x3A, 0x3A, 0x5B, 0x62]) = [['a', '\uFFFD'], ['b']] ∧
      ¬ separatorBytes <:+: [0xF0, 0x9F, 0x5D] ∧
      splitOn separator (decodeLossy (joinWith separatorBytes
          ((splitOn separatorBytes [0x61, 0xE2, 0x82, 0x5D, 0x3A, 0x3A, 0x5B, 0x62]).set 0 [0xF0, 0x9F, 0x5D]))) =
        [['\uFFFD', ']'], ['b']] := by
  obtain ⟨fields, replaced, -⟩ := fields_decoded_apart [0x61, 0xE2, 0x82, 0x5D, 0x3A, 0x3A, 0x5B, 0x62]
  have decoded : splitOn separator (decodeLossy [0x61, 0xE2, 0x82, 0x5D, 0x3A, 0x3A, 0x5B, 0x62]) =
      [['a', '\uFFFD'], ['b']] := fields.trans (by decide)
  have absent : ¬ separatorBytes <:+: [0xF0, 0x9F, 0x5D] := by decide
  refine ⟨decoded, absent, (replaced 0 _ absent).trans ?_⟩
  rw [decoded]
  decide

end Observatory.Trace
