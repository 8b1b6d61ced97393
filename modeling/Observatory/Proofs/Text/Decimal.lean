import Observatory.Text.Blank
import Observatory.Text.Decimal
import Mathlib.Algebra.Group.Nat.Defs
import Mathlib.Tactic.SplitIfs

/-! # Decimal notation

Digits are read from the left, and the value only grows, so a literal is refused for its size exactly if its
whole value is too large. Main statements: the literals that are read are those of the grammar, with their
values, and the digits that are written for a number, filled up with zeros or not, have its value.
-/

namespace Observatory.Text

variable {limit value n width : Nat} {text digits : List Char} {c : Char}

/-! ## Digits -/

/-- The digits are ten consecutive code points. -/
theorem isDigit_iff : c.isDigit = true ↔ 48 ≤ c.toNat ∧ c.toNat ≤ 57 := by
  have bounds : ('0' : Char).val.toNat = 48 ∧ ('9' : Char).val.toNat = 57 := by decide
  have same : c.val.toNat = c.toNat := rfl
  simp only [Char.isDigit, ge_iff_le, Bool.and_eq_true, decide_eq_true_eq, UInt32.le_iff_toNat_le]
  omega

/-- A digit has its distance from zero as its value. -/
theorem digit?_eq (c : Char) : digit? c = if c.isDigit then some (c.toNat - '0'.toNat) else none := by
  have same : ('0' ≤ c ∧ c ≤ '9') ↔ c.isDigit = true := by
    simp only [Char.isDigit, Char.le_def, ge_iff_le, Bool.and_eq_true, decide_eq_true_eq]
  unfold digit?
  by_cases digit : c.isDigit = true
  · rw [if_pos (same.mpr digit), if_pos digit]
  · rw [if_neg (mt same.mp digit), if_neg digit]

theorem isSome_digit? (c : Char) : (digit? c).isSome = c.isDigit := by
  rw [digit?_eq]
  cases c.isDigit <;> simp

/-- More digits never make a number smaller. -/
theorem le_ofDigitChars (digits : List Char) (value : Nat) : value ≤ Nat.ofDigitChars 10 digits value := by
  rw [Nat.ofDigitChars_eq_ofDigitChars_zero]
  have scaled := Nat.le_mul_of_pos_left value (Nat.pow_pos (n := digits.length) (by decide : 0 < 10))
  omega

/-- How large a number of so many digits can be. -/
theorem ofDigitChars_lt (isDigits : ∀ c ∈ digits, c.isDigit = true) :
    Nat.ofDigitChars 10 digits 0 < 10 ^ digits.length := by
  induction digits with
  | nil => simp
  | cons c rest ih =>
    rw [List.forall_mem_cons] at isDigits
    have digit : c.toNat - '0'.toNat ≤ 9 := by
      have bounds := isDigit_iff.mp isDigits.1
      have zero : ('0' : Char).toNat = 48 := by decide
      omega
    have tail := ih isDigits.2
    rw [Nat.ofDigitChars_cons, Nat.ofDigitChars_eq_ofDigitChars_zero, Nat.mul_zero, Nat.zero_add, List.length_cons,
      Nat.pow_succ]
    have scaled := Nat.mul_le_mul_left (10 ^ rest.length) digit
    omega

/-- Digits are read as the number that they spell, as long as it is within the limit. -/
theorem readDigits_eq_ok_iff (within : value ≤ limit) :
    readDigits limit value text = .ok n ↔
      (∀ c ∈ text, c.isDigit = true) ∧ Nat.ofDigitChars 10 text value = n ∧ n ≤ limit := by
  induction text generalizing value with
  | nil =>
    simp only [readDigits, Except.ok.injEq, List.not_mem_nil, false_imp_iff, implies_true, Nat.ofDigitChars_nil,
      true_and]
    constructor
    · rintro rfl
      exact ⟨rfl, within⟩
    · exact And.left
  | cons c rest ih =>
    rw [readDigits, digit?_eq, List.forall_mem_cons, Nat.ofDigitChars_cons, Nat.mul_comm 10]
    by_cases digit : c.isDigit = true
    · rw [if_pos digit]
      simp only [digit, true_and]
      split_ifs with large
      · -- the value does not come back below the limit
        simp only [false_iff, not_and]
        rintro - rfl
        have grown := le_ofDigitChars rest (value * 10 + (c.toNat - '0'.toNat))
        omega
      · exact ih (by omega)
    · simp [digit]

/-! ## Literals -/

/-- The text is a literal of the value: one digit or more, with or without a plus sign. -/
def IsLiteral (text : List Char) (value : Nat) : Prop :=
  ∃ digits, (text = digits ∨ text = '+' :: digits) ∧ digits ≠ [] ∧ (∀ c ∈ digits, c.isDigit = true) ∧
    Nat.ofDigitChars 10 digits 0 = value

/-- Just the literals of numbers within the limit are read. -/
theorem readUnsigned_eq_ok_iff : readUnsigned limit text = .ok n ↔ IsLiteral text n ∧ n ≤ limit := by
  have plus : ('+' : Char).isDigit = false := by decide
  have read (digits : List Char) := @readDigits_eq_ok_iff limit 0 n digits (Nat.zero_le limit)
  unfold readUnsigned IsLiteral
  split
  · simp
  · simp [plus]
  · rename_i rest solid
    rw [read]
    constructor
    · rintro ⟨isDigits, same, bound⟩
      exact ⟨⟨rest, .inr rfl, solid, isDigits, same⟩, bound⟩
    · rintro ⟨⟨digits, rfl | signed, -, isDigits, same⟩, bound⟩
      · have sign := isDigits '+' (List.mem_cons_self ..)
        rw [plus] at sign
        contradiction
      · obtain rfl := List.tail_eq_of_cons_eq signed
        exact ⟨isDigits, same, bound⟩
  · rename_i solid _ unsigned
    rw [read]
    constructor
    · rintro ⟨isDigits, same, bound⟩
      exact ⟨⟨text, .inl rfl, solid, isDigits, same⟩, bound⟩
    · rintro ⟨⟨digits, rfl | rfl, nonempty, isDigits, same⟩, bound⟩
      · exact ⟨isDigits, same, bound⟩
      · exact absurd rfl (unsigned digits)

/-! ## Written numbers -/

theorem isDigit_of_mem_decimal (member : c ∈ decimal n) : c.isDigit = true :=
  Nat.isDigit_of_mem_toDigits (by decide) (by decide) member

/-- A number that was written is read as it was. -/
theorem isLiteral_decimal (n : Nat) : IsLiteral (decimal n) n :=
  ⟨decimal n, .inl rfl, Nat.toDigits_ne_nil, fun _ => isDigit_of_mem_decimal, Nat.ofDigitChars_ten_toDigits⟩

theorem isDigit_of_mem_padded (member : c ∈ padded width n) : c.isDigit = true := by
  rcases List.mem_append.mp member with zero | digit
  · rw [List.eq_of_mem_replicate zero]
    decide
  · exact isDigit_of_mem_decimal digit

theorem padded_ne_nil (width n : Nat) : padded width n ≠ [] :=
  List.append_ne_nil_of_right_ne_nil _ Nat.toDigits_ne_nil

/-- Zeros in front do not change the number. -/
theorem ofDigitChars_padded (width n : Nat) : Nat.ofDigitChars 10 (padded width n) 0 = n := by
  simp only [padded, decimal, Nat.ofDigitChars_append, Nat.ofDigitChars_replicate_zero, Nat.mul_zero,
    Nat.ofDigitChars_ten_toDigits]

/-- A number that is small enough fills the width. -/
theorem length_padded (positive : 0 < width) (small : n < 10 ^ width) : (padded width n).length = width := by
  have short : (decimal n).length ≤ width := (Nat.length_toDigits_le_iff (by decide) positive).mpr small
  simp only [padded, List.length_append, List.length_replicate]
  omega

/-! ## White space -/

theorem isBlank_of_isDigit (digit : c.isDigit = true) : isBlank c = false := by
  have bounds := isDigit_iff.mp digit
  simp only [isBlank, Bool.or_eq_false_iff, Bool.and_eq_false_iff, decide_eq_false_iff_not, beq_eq_false_iff_ne]
  omega

theorem trimStart_cons (solid : isBlank c = false) (rest : List Char) : trimStart (c :: rest) = c :: rest := by
  rw [trimStart, List.dropWhile_cons_of_neg (by simp [solid])]

/-- There is nothing to trim off a text without blanks. -/
theorem trim_of_forall_not_isBlank (solid : ∀ c ∈ text, isBlank c = false) : trim text = text := by
  have kept (part : List Char) (subset : part ⊆ text) : part.dropWhile isBlank = part := by
    cases part with
    | nil => rfl
    | cons c rest => exact trimStart_cons (solid c (subset (List.mem_cons_self ..))) rest
  rw [trim, trimEnd, trimStart, kept text (List.Subset.refl _), kept text.reverse (by simp), List.reverse_reverse]

end Observatory.Text
