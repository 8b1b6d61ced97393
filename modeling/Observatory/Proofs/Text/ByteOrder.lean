import Observatory.Text.Utf8
import Mathlib.Tactic.SplitIfs

/-! # The order of encoded text

Text is ordered by its characters, its encoding by its bytes. Main statement: the two orders agree. A
larger character has a larger byte where the encodings first differ, and neither encoding begins the
other, so what follows the characters has no say.
-/

namespace Observatory.Text.Utf8

/-- The first byte in which two sequences differ is there in both, and smaller in the first. -/
def Precedes : List UInt8 → List UInt8 → Prop
  | first :: rest, other :: others => first < other ∨ first = other ∧ Precedes rest others
  | _, _ => False

theorem Precedes.append_lt {bytes others : List UInt8} (precedes : Precedes bytes others)
    (tail end_ : List UInt8) : bytes ++ tail < others ++ end_ := by
  induction bytes generalizing others with
  | nil => exact precedes.elim
  | cons first rest ih =>
    cases others with
    | nil => exact precedes.elim
    | cons other others =>
      rw [List.cons_append, List.cons_append, List.cons_lt_cons_iff]
      exact precedes.imp_right fun ⟨same, later⟩ => ⟨same, ih later⟩

private theorem ofNat_lt_ofNat {n m : Nat} (bound : m < 256) (lower : n < m) :
    UInt8.ofNat n < UInt8.ofNat m := by
  rw [UInt8.lt_iff_toNat_lt, UInt8.toNat_ofNat', UInt8.toNat_ofNat']
  omega

/-- The last digit is compared only if the digits before it are the same. -/
private theorem lt_or_digit_lt {n m : Nat} (lower : n < m) :
    n / 64 < m / 64 ∨ n / 64 = m / 64 ∧ n % 64 < m % 64 := by
  omega

private theorem precedes_four_bytes {n m : Nat} (lower : n < m) (bound : m < 0x110000) :
    Precedes
      [.ofNat (n / 262144 % 8 + 240), .ofNat (n / 4096 % 64 + 128), .ofNat (n / 64 % 64 + 128),
        .ofNat (n % 64 + 128)]
      [.ofNat (m / 262144 % 8 + 240), .ofNat (m / 4096 % 64 + 128), .ofNat (m / 64 % 64 + 128),
        .ofNat (m % 64 + 128)] := by
  have digits (k : Nat) : k / 262144 = k / 64 / 64 / 64 ∧ k / 4096 = k / 64 / 64 := by omega
  rw [(digits n).1, (digits n).2, (digits m).1, (digits m).2]
  rcases lt_or_digit_lt lower with higher | ⟨same, digit⟩
  · rcases lt_or_digit_lt higher with highest | ⟨same, digit⟩
    · rcases lt_or_digit_lt highest with lead | ⟨same, digit⟩
      · exact .inl (ofNat_lt_ofNat (by omega) (by omega))
      · exact .inr ⟨by rw [same], .inl (ofNat_lt_ofNat (by omega) (by omega))⟩
    · refine .inr ⟨by rw [same], .inr ⟨by rw [same], .inl ?_⟩⟩
      exact ofNat_lt_ofNat (by omega) (by omega)
  · refine .inr ⟨by rw [same], .inr ⟨by rw [same], .inr ⟨by rw [same], .inl ?_⟩⟩⟩
    exact ofNat_lt_ofNat (by omega) (by omega)

theorem precedes_of_lt {c d : Char} (lower : c < d) :
    Precedes (String.utf8EncodeChar c) (String.utf8EncodeChar d) := by
  have lower : c.val.toNat < d.val.toNat := lower
  have bound : d.val.toNat < 0x110000 := by
    have valid := d.valid
    simp only [UInt32.isValidChar, Nat.isValidChar] at valid
    omega
  -- the leading byte tells how many follow; among encodings of one length the digits are compared
  simp only [String.utf8EncodeChar]
  by_cases long : 65535 < c.val.toNat
  · have above (n : Nat) (small : n ≤ 65535) : ¬ c.val.toNat ≤ n ∧ ¬ d.val.toNat ≤ n := by omega
    simp only [above, Nat.reduceLeDiff, ↓reduceIte]
    exact precedes_four_bytes lower bound
  · split_ifs <;>
      simp only [Precedes, UInt8.lt_iff_toNat_lt, ← UInt8.toNat_inj, UInt8.toNat_ofNat', and_false, or_false] <;>
      omega

theorem encode_lt_encode {text other : List Char} (lower : text < other) : encode text < encode other := by
  induction lower with
  | @nil c rest =>
    have encoded : encode (c :: rest) ≠ [] := by
      simp only [encode, List.flatMap_cons, String.utf8EncodeChar]
      split_ifs <;> simp
    obtain ⟨byte, bytes, equal⟩ := List.exists_cons_of_ne_nil encoded
    rw [equal]
    exact List.nil_lt_cons byte bytes
  | rel differs => exact (precedes_of_lt differs).append_lt _ _
  | cons _ ih => exact List.append_left_lt ih

/-- Names in increasing order have their bytes in increasing order. -/
theorem pairwise_encode_lt {names : List String} (sorted : names.Pairwise (· < ·)) :
    names.Pairwise fun name other => encode name.toList < encode other.toList :=
  sorted.imp fun lower => encode_lt_encode (String.lt_iff.mp lower)

end Observatory.Text.Utf8
