import Observatory.Proofs.Text.Utf8
import Mathlib.Data.Nat.Find

/-! # What cannot be read

Where no character stands, the longest run of bytes that some character begins with is unreadable as a whole, and
a byte that no character begins with is unreadable alone. Main statement: forgiving decoding puts each character
for its bytes and one replacement for each such run, and there is no other text of that kind.
-/

namespace Observatory.Text.Utf8

/-- A character begins with these bytes, or has no others. -/
def Begins (part : List UInt8) : Prop :=
  ∃ c, part <+: String.utf8EncodeChar c

/-- No character stands in front of these bytes, and `part` is the longest beginning of one, or a single byte. -/
structure Unreadable (part rest : List UInt8) : Prop where
  solid : part ≠ []
  noCharacter : ∀ c, ¬ String.utf8EncodeChar c <+: part ++ rest
  begins : Begins part ∨ part.length = 1
  longest : ∀ more, more ≠ [] → more <+: rest → ¬ Begins (part ++ more)

/-- The text stands for the bytes, with a replacement for each part that cannot be read. -/
inductive Lossy : List UInt8 → List Char → Prop where
  | nil : Lossy [] []
  | character (c : Char) {rest : List UInt8} {text : List Char} :
      Lossy rest text → Lossy (String.utf8EncodeChar c ++ rest) (c :: text)
  | unreadable {part rest : List UInt8} {text : List Char} :
      Unreadable part rest → Lossy rest text → Lossy (part ++ rest) (replacement :: text)

variable {byte : UInt8} {state : Option Unfinished} {begun : Unfinished} {bytes part rest : List UInt8} {c : Char}
  {text : List Char}

/-! ## Running the machine -/

/-- The pieces that some bytes complete, and what is owed after them. -/
def run : Option Unfinished → List UInt8 → List Piece × Option Unfinished
  | state, [] => ([], state)
  | state, byte :: rest =>
      let after := run (step state byte).2 rest
      ((step state byte).1 ++ after.1, after.2)

theorem piecesFrom_append (state : Option Unfinished) (bytes rest : List UInt8) :
    piecesFrom state (bytes ++ rest) = (run state bytes).1 ++ piecesFrom (run state bytes).2 rest := by
  induction bytes generalizing state with
  | nil => rfl
  | cons byte bytes ih =>
    rw [List.cons_append, piecesFrom_cons, ih, run, List.append_assoc]

/-- Bytes are taken one after the other. -/
theorem run_append (state : Option Unfinished) (bytes rest : List UInt8) :
    run state (bytes ++ rest) =
      ((run state bytes).1 ++ (run (run state bytes).2 rest).1, (run (run state bytes).2 rest).2) := by
  induction bytes generalizing state with
  | nil => rfl
  | cons byte bytes ih => simp only [List.cons_append, run, ih, List.append_assoc]

/-- A byte completes something or leaves something owed. -/
theorem isSome_of_step (sound : Sound state) (silent : (step state byte).1 = []) : (step state byte).2.isSome := by
  by_cases ascii : IsAscii byte
  · rw [step_ascii sound ascii] at silent
    simp at silent
  · exact (step_long sound ascii).owes silent

/-- Bytes that have yielded nothing have begun a character. -/
theorem isSome_of_run (sound : Sound state) (solid : bytes ≠ []) (silent : (run state bytes).1 = []) :
    (run state bytes).2.isSome := by
  induction bytes generalizing state with
  | nil => contradiction
  | cons byte rest ih =>
    obtain ⟨here, later⟩ := List.append_eq_nil_iff.mp silent
    by_cases last : rest = []
    · rw [last]
      exact isSome_of_step sound here
    · exact ih (sound_step sound byte) last later

theorem sound_run (sound : Sound state) (bytes : List UInt8) : Sound (run state bytes).2 := by
  induction bytes generalizing state with
  | nil => exact sound
  | cons byte rest ih => exact ih (sound_step sound byte)

/-! ## Characters -/

private theorem toNat_byte {n : Nat} (small : n < 256) : (UInt8.ofNat n).toNat = n :=
  UInt8.toNat_ofNat_of_lt' small

private theorem run_two {n : Nat} {first second : UInt8} (lower : 0x80 ≤ n) (upper : n ≤ 0x7FF)
    (firstIs : first.toNat = n / 64 % 32 + 192) (secondIs : second.toNat = n % 64 + 128) :
    run none [first, second] = ([some (Char.ofNat n)], none) := by
  have value : (first.toNat - 0xC0) * 64 + (second.toNat - 0x80) = n := by omega
  have begins := @first_two first (by omega) (by omega)
  simp only [run, step.eq_1, begins, @step_last second 0x80 0xBF _ (by omega) (by omega), value, List.nil_append,
    List.append_nil]

/-- Three bytes that spell a code point are taken for it. -/
private theorem run_three {n : Nat} {first second third : UInt8} (valid : n < 0xD800 ∨ 0xDFFF < n)
    (lower : 0x800 ≤ n) (upper : n ≤ 0xFFFF) (firstIs : first.toNat = n / 4096 % 16 + 224)
    (secondIs : second.toNat = n / 64 % 64 + 128) (thirdIs : third.toNat = n % 64 + 128) :
    run none [first, second, third] = ([some (Char.ofNat n)], none) := by
  have value : ((first.toNat - 0xE0) * 64 + (second.toNat - 0x80)) * 64 + (third.toNat - 0x80) = n := by omega
  have begins := @first_three first (by omega) (by omega)
  have goesOn := @step_next second (if first.toNat = 0xE0 then 0xA0 else 0x80)
    (if first.toNat = 0xED then 0x9F else 0xBF) 0 (first.toNat - 0xE0) (by split_ifs <;> omega) (by split_ifs <;> omega)
  simp only [run, step.eq_1, begins, goesOn, @step_last third 0x80 0xBF _ (by omega) (by omega), value,
    List.nil_append, List.append_nil]

private theorem run_four {n : Nat} {first second third fourth : UInt8} (lower : 0x10000 ≤ n) (upper : n < 0x110000)
    (firstIs : first.toNat = n / 262144 % 8 + 240) (secondIs : second.toNat = n / 4096 % 64 + 128)
    (thirdIs : third.toNat = n / 64 % 64 + 128) (fourthIs : fourth.toNat = n % 64 + 128) :
    run none [first, second, third, fourth] = ([some (Char.ofNat n)], none) := by
  have value : (((first.toNat - 0xF0) * 64 + (second.toNat - 0x80)) * 64 + (third.toNat - 0x80)) * 64 +
      (fourth.toNat - 0x80) = n := by omega
  have begins := @first_four first (by omega) (by omega)
  have goesOn := @step_next second (if first.toNat = 0xF0 then 0x90 else 0x80)
    (if first.toNat = 0xF4 then 0x8F else 0xBF) 1 (first.toNat - 0xF0) (by split_ifs <;> omega) (by split_ifs <;> omega)
  have goesFurther := @step_next third 0x80 0xBF 0 ((first.toNat - 0xF0) * 64 + (second.toNat - 0x80)) (by omega)
    (by omega)
  simp only [run, step.eq_1, begins, goesOn, goesFurther, @step_last fourth 0x80 0xBF _ (by omega) (by omega), value,
    List.nil_append, List.append_nil]

/-- The bytes of a character are read as that character. -/
theorem run_utf8EncodeChar (c : Char) : run none (String.utf8EncodeChar c) = ([some c], none) := by
  obtain ⟨n, same⟩ : ∃ n, c.val.toNat = n := ⟨_, rfl⟩
  have valid : n.isValidChar := same ▸ c.valid
  have back : Char.ofNat n = c := same ▸ Char.ofNat_toNat c
  rw [← back, utf8EncodeChar_ofNat valid]
  unfold Nat.isValidChar at valid
  split_ifs
  · have ascii : IsAscii (UInt8.ofNat n) := by
      rw [IsAscii, toNat_byte (by omega)]
      assumption
    rw [run, step_ascii sound_none ascii, run, asciiChar, toNat_byte (by omega)]
    rfl
  · exact run_two (by omega) (by omega) (toNat_byte (by omega)) (toNat_byte (by omega))
  · exact run_three (by omega) (by omega) (by omega) (toNat_byte (by omega)) (toNat_byte (by omega))
      (toNat_byte (by omega))
  · exact run_four (by omega) (by omega) (toNat_byte (by omega)) (toNat_byte (by omega)) (toNat_byte (by omega))
      (toNat_byte (by omega))

/-- A character that was encoded is decoded to itself, whatever follows. -/
theorem decodeLossy_utf8EncodeChar_append (c : Char) (rest : List UInt8) :
    decodeLossy (String.utf8EncodeChar c ++ rest) = c :: decodeLossy rest := by
  rw [decodeLossy, pieces, piecesFrom_append, run_utf8EncodeChar]
  rfl

/-! ## Unreadable parts -/

/-- The first bytes of what begins a character begin it as well. -/
theorem Begins.mono (begins : Begins bytes) (start : part <+: bytes) : Begins part := by
  obtain ⟨c, front⟩ := begins
  exact ⟨c, start.trans front⟩

private theorem Continues.begins {owed low high value : Nat} (continues : Continues part owed low high value)
    (proper : low ≤ high) (below : high ≤ 0xBF) : Begins part := by
  have fits : (UInt8.ofNat low).toNat = low := toNat_byte (by omega)
  induction owed generalizing part low high value with
  | zero =>
    have encoded := continues (UInt8.ofNat low) (by omega) (by omega)
    exact ⟨_, encoded ▸ List.prefix_append _ _⟩
  | succ owed ih =>
    have further := continues (UInt8.ofNat low) (by omega) (by omega)
    exact (ih further (by omega) (by omega) (toNat_byte (by omega))).mono (List.prefix_append _ _)

theorem Owes.begins (owes : Owes part begun) : Begins part :=
  owes.continues.begins owes.proper owes.below

theorem Owes.begins_concat (owes : Owes part begun) (lower : begun.low ≤ byte.toNat) (upper : byte.toNat ≤ begun.high) :
    Begins (part ++ [byte]) := by
  rcases owes.step lower upper with ⟨c, -, encoded⟩ | ⟨next, -, owesNext⟩
  · exact ⟨c, encoded ▸ List.prefix_refl _⟩
  · exact owesNext.begins

/-- As long as nothing is completed or given up, the bytes are those of one character. -/
theorem Owes.run {more : List UInt8} (owes : Owes part begun) (silent : (run (some begun) more).1 = []) :
    ∃ last, (Utf8.run (some begun) more).2 = some last ∧ Owes (part ++ more) last := by
  induction more generalizing part begun with
  | nil => exact ⟨begun, rfl, by rwa [List.append_nil]⟩
  | cons byte more ih =>
    obtain ⟨here, later⟩ := List.append_eq_nil_iff.mp silent
    by_cases fits : begun.low ≤ byte.toNat ∧ byte.toNat ≤ begun.high
    · rcases owes.step fits.1 fits.2 with ⟨c, completed, -⟩ | ⟨next, goesOn, owesNext⟩
      · simp [completed] at here
      · rw [goesOn] at later
        rw [Utf8.run, goesOn, List.append_cons]
        exact ih owesNext later
    · simp [step_misfit fits] at here

/-- Bytes that have yielded nothing owe the rest of a character. -/
theorem owes_of_run (solid : part ≠ []) (silent : (run none part).1 = []) :
    ∃ begun, (run none part).2 = some begun ∧ Owes part begun := by
  obtain ⟨byte, more, rfl⟩ := List.exists_cons_of_ne_nil solid
  obtain ⟨here, later⟩ := List.append_eq_nil_iff.mp silent
  by_cases ascii : IsAscii byte
  · simp [step, first_ascii ascii] at here
  · rcases first_long ascii with unreadable | ⟨begun, begins, owes⟩
    · simp [step, unreadable] at here
    · simp only [step, begins] at later
      simp only [run, step, begins]
      exact owes.run later

/-- Before its last byte nothing of a character is given out. -/
theorem silent_of_utf8EncodeChar {tail : List UInt8} (encoded : String.utf8EncodeChar c = part ++ tail)
    (solid : tail ≠ []) : (run none part).1 = [] := by
  have whole := run_utf8EncodeChar c
  rw [encoded, run_append, Prod.mk.injEq] at whole
  rcases List.append_eq_singleton_iff.mp whole.1 with ⟨silent, -⟩ | ⟨-, silent⟩
  · exact silent
  · have owed := isSome_of_run (sound_run sound_none part) solid silent
    simp [whole.2] at owed

theorem first_of_not_begins (begins : ¬ Begins [byte]) : first byte = ([none], none) := by
  by_cases ascii : IsAscii byte
  · unfold IsAscii at ascii
    have encoded := utf8EncodeChar_ofNat (.inl (show byte.toNat < 0xD800 by omega))
    rw [if_pos ascii, UInt8.ofNat_toNat] at encoded
    refine absurd ⟨Char.ofNat byte.toNat, ?_⟩ begins
    rw [encoded]
  · rcases first_long ascii with unreadable | ⟨begun, -, owes⟩
    · exact unreadable
    · exact absurd owes.begins begins

/-- Bytes that cannot be read are replaced by one character. -/
theorem decodeLossy_unreadable_append (unreadable : Unreadable part rest) :
    decodeLossy (part ++ rest) = replacement :: decodeLossy rest := by
  suffices piecesFrom none (part ++ rest) = none :: piecesFrom none rest by
    rw [decodeLossy, pieces, this]
    rfl
  by_cases begins : Begins part
  · obtain ⟨c, tail, encoded⟩ := begins
    have unfinished : tail ≠ [] := by
      rintro rfl
      apply unreadable.noCharacter c
      rw [← encoded, List.append_nil]
      exact List.prefix_append _ _
    have silent := silent_of_utf8EncodeChar encoded.symm unfinished
    obtain ⟨begun, state, owes⟩ := owes_of_run unreadable.solid silent
    rw [piecesFrom_append, silent, state, List.nil_append]
    cases rest with
    | nil => rfl
    | cons byte rest =>
      have misfit : ¬ (begun.low ≤ byte.toNat ∧ byte.toNat ≤ begun.high) := fun fits =>
        unreadable.longest [byte] (by simp) (by simp) (owes.begins_concat fits.1 fits.2)
      rw [piecesFrom_cons, piecesFrom_cons, step_misfit misfit]
      rfl
  · obtain ⟨byte, rfl⟩ := List.length_eq_one_iff.mp (unreadable.begins.resolve_left begins)
    rw [List.singleton_append, piecesFrom_cons, step, first_of_not_begins begins]
    rfl

/-! ## The text of some bytes -/

/-- Bytes begin with a character or with an unreadable part. -/
theorem exists_front (solid : bytes ≠ []) :
    (∃ c, String.utf8EncodeChar c <+: bytes) ∨ ∃ part rest, part ++ rest = bytes ∧ Unreadable part rest := by
  classical
  by_cases character : ∃ c, String.utf8EncodeChar c <+: bytes
  · exact .inl character
  -- the longest beginning of a character, or one byte if there is none
  obtain ⟨greatest, found⟩ : ∃ n, n = Nat.findGreatest (fun n => Begins (bytes.take n)) bytes.length := ⟨_, rfl⟩
  have whole := List.take_append_drop (max 1 greatest) bytes
  refine .inr ⟨bytes.take (max 1 greatest), bytes.drop (max 1 greatest), whole, ?_, ?_, ?_, ?_⟩
  · simpa using solid
  · rw [whole]
    exact not_exists.mp character
  · by_cases none : greatest = 0
    · have positive := List.length_pos_iff.mpr solid
      right
      rw [none, List.length_take]
      omega
    · left
      rw [Nat.max_eq_right (by omega)]
      exact Nat.findGreatest_of_ne_zero found.symm none
  · rintro more solidMore ⟨tail, front⟩ begins
    have length := List.length_pos_iff.mpr solidMore
    have longer : bytes.take (max 1 greatest) ++ more = bytes.take (max 1 greatest + more.length) := by
      rw [List.take_add, ← front, List.take_left]
    have bounded : max 1 greatest + more.length ≤ bytes.length := by
      have total := congrArg List.length front
      simp only [List.length_append, List.length_drop] at total
      omega
    rw [longer] at begins
    have beyond : Nat.findGreatest (fun n => Begins (bytes.take n)) bytes.length < max 1 greatest + more.length := by
      omega
    exact Nat.findGreatest_is_greatest beyond bounded begins

/-- A text that the bytes may be decoded to is the one that they are decoded to. -/
theorem Lossy.decodeLossy_eq (lossy : Lossy bytes text) : decodeLossy bytes = text := by
  induction lossy with
  | nil => rfl
  | character c _ ih => rw [decodeLossy_utf8EncodeChar_append, ih]
  | unreadable unreadable _ ih => rw [decodeLossy_unreadable_append unreadable, ih]

/-- All bytes may be decoded to some text. -/
theorem exists_lossy (bytes : List UInt8) : ∃ text, Lossy bytes text := by
  induction bound : bytes.length using Nat.strong_induction_on generalizing bytes with
  | _ length ih =>
    have later {front rest : List UInt8} (whole : front ++ rest = bytes) (solid : front ≠ []) :
        ∃ text, Lossy rest text := by
      have positive := List.length_pos_iff.mpr solid
      have total := congrArg List.length whole
      rw [List.length_append] at total
      exact ih rest.length (by omega) rest rfl
    by_cases empty : bytes = []
    · exact ⟨[], empty ▸ .nil⟩
    · rcases exists_front empty with ⟨c, rest, whole⟩ | ⟨part, rest, whole, unreadable⟩
      · obtain ⟨text, lossy⟩ := later whole String.utf8EncodeChar_ne_nil
        exact ⟨c :: text, whole ▸ .character c lossy⟩
      · obtain ⟨text, lossy⟩ := later whole unreadable.solid
        exact ⟨replacement :: text, whole ▸ .unreadable unreadable lossy⟩

/-- Forgiving decoding gives the one text that stands for the bytes. -/
theorem lossy_iff : Lossy bytes text ↔ decodeLossy bytes = text := by
  constructor
  · exact Lossy.decodeLossy_eq
  · rintro rfl
    obtain ⟨text, lossy⟩ := exists_lossy bytes
    rwa [lossy.decodeLossy_eq]

end Observatory.Text.Utf8
