import Observatory.Proofs.Text.Split
import Observatory.Text.Utf8

/-! # Decoding around ASCII

An ASCII byte is never part of a longer character: it gives up whatever has begun and then stands for itself.
No other byte leads to an ASCII character, whether it is readable or not. Main statements: decoding goes apart
at every ASCII byte, an ASCII pattern stands in the decoded text exactly if its bytes stand in the bytes, and
the text is cut at an ASCII separator into the decoded pieces of the bytes.
-/

namespace Observatory.Text

theorem toNat_ofNat {n : Nat} (valid : n.isValidChar) : (Char.ofNat n).toNat = n := by
  rw [Char.ofNat, dif_pos valid]
  rfl

namespace Utf8

variable {byte : UInt8} {state : Option Unfinished} {begun : Unfinished} {pattern separator bytes part : List UInt8}
  {low high : Nat}

/-- The byte is a character by itself. -/
def IsAscii (byte : UInt8) : Prop :=
  byte.toNat ≤ 0x7F

instance : DecidablePred IsAscii :=
  fun byte => inferInstanceAs (Decidable (byte.toNat ≤ 0x7F))

/-- The character that an ASCII byte is. -/
def asciiChar (byte : UInt8) : Char :=
  Char.ofNat byte.toNat

/-- The character takes more than one byte. -/
def IsLong (c : Char) : Prop :=
  0x80 ≤ c.toNat

/-- An ASCII byte is the code point of its character. -/
theorem toNat_asciiChar (ascii : IsAscii byte) : (asciiChar byte).toNat = byte.toNat := by
  unfold IsAscii at ascii
  exact toNat_ofNat (.inl (by omega))

theorem not_isLong_asciiChar (ascii : IsAscii byte) : ¬ IsLong (asciiChar byte) := by
  rw [IsLong, toNat_asciiChar ascii]
  unfold IsAscii at ascii
  omega

/-- Different ASCII bytes are different characters. -/
theorem asciiChar_inj {other : UInt8} (ascii : IsAscii byte) (asciiOther : IsAscii other) :
    asciiChar byte = asciiChar other ↔ byte = other := by
  rw [← Char.toNat_inj, toNat_asciiChar ascii, toNat_asciiChar asciiOther, UInt8.toNat_inj]

theorem isLong_replacement : IsLong replacement := by
  unfold IsLong
  decide

/-! ## What the machine owes -/

/-- Of a character the bytes `part` have been read. Whatever continuation bytes follow, they complete one. -/
def Continues : (part : List UInt8) → (owed low high value : Nat) → Prop
  | part, 0, low, high, value => ∀ byte : UInt8, low ≤ byte.toNat → byte.toNat ≤ high →
      String.utf8EncodeChar (Char.ofNat (value * 64 + (byte.toNat - 0x80))) = part ++ [byte]
  | part, owed + 1, low, high, value => ∀ byte : UInt8, low ≤ byte.toNat → byte.toNat ≤ high →
      Continues (part ++ [byte]) owed 0x80 0xBF (value * 64 + (byte.toNat - 0x80))

/-- How a code point is spelled in bytes, by its size. -/
theorem utf8EncodeChar_ofNat {n : Nat} (valid : n.isValidChar) :
    String.utf8EncodeChar (Char.ofNat n) =
      if n ≤ 127 then [UInt8.ofNat n]
      else if n ≤ 2047 then [.ofNat (n / 64 % 32 + 192), .ofNat (n % 64 + 128)]
      else if n ≤ 65535 then [.ofNat (n / 4096 % 16 + 224), .ofNat (n / 64 % 64 + 128), .ofNat (n % 64 + 128)]
      else [.ofNat (n / 262144 % 8 + 240), .ofNat (n / 4096 % 64 + 128), .ofNat (n / 64 % 64 + 128),
        .ofNat (n % 64 + 128)] := by
  have same : (Char.ofNat n).val.toNat = n := toNat_ofNat valid
  simp only [String.utf8EncodeChar, same]

private theorem ofNat_eq {n : Nat} (same : n = byte.toNat) : UInt8.ofNat n = byte := by
  rw [same, UInt8.ofNat_toNat]

/-- After the first byte of a pair, any continuation byte gives a code point that is spelled so. -/
private theorem continues_two (lower : 0xC2 ≤ byte.toNat) (upper : byte.toNat ≤ 0xDF) :
    Continues [byte] 0 0x80 0xBF (byte.toNat - 0xC0) := by
  intro second low high
  rw [utf8EncodeChar_ofNat (.inl (by omega)), if_neg (by omega), if_pos (by omega)]
  simp only [List.cons_append, List.nil_append, List.cons.injEq, and_true]
  exact ⟨ofNat_eq (by omega), ofNat_eq (by omega)⟩

/-- After the first of three bytes, the second one must rule out short spellings and surrogates. -/
private theorem continues_three (lower : 0xE0 ≤ byte.toNat) (upper : byte.toNat ≤ 0xEF) (lowest : 0x80 ≤ low)
    (highest : high ≤ 0xBF) (short : byte.toNat = 0xE0 → 0xA0 ≤ low) (surrogate : byte.toNat = 0xED → high ≤ 0x9F) :
    Continues [byte] 1 low high (byte.toNat - 0xE0) := by
  intro second fromLow toHigh third fromLowest toHighest
  have valid : (((byte.toNat - 0xE0) * 64 + (second.toNat - 0x80)) * 64 + (third.toNat - 0x80)).isValidChar := by
    unfold Nat.isValidChar
    omega
  rw [utf8EncodeChar_ofNat valid, if_neg (by omega), if_neg (by omega), if_pos (by omega)]
  simp only [List.cons_append, List.nil_append, List.cons.injEq, and_true]
  exact ⟨ofNat_eq (by omega), ofNat_eq (by omega), ofNat_eq (by omega)⟩

/-- After the first of four bytes, the second one must rule out short spellings and code points that are too large. -/
private theorem continues_four (lower : 0xF0 ≤ byte.toNat) (upper : byte.toNat ≤ 0xF4) (lowest : 0x80 ≤ low)
    (highest : high ≤ 0xBF) (short : byte.toNat = 0xF0 → 0x90 ≤ low) (large : byte.toNat = 0xF4 → high ≤ 0x8F) :
    Continues [byte] 2 low high (byte.toNat - 0xF0) := by
  intro second fromLow toHigh third _ _ fourth _ _
  have valid : ((((byte.toNat - 0xF0) * 64 + (second.toNat - 0x80)) * 64 + (third.toNat - 0x80)) * 64 +
      (fourth.toNat - 0x80)).isValidChar := by
    unfold Nat.isValidChar
    omega
  rw [utf8EncodeChar_ofNat valid, if_neg (by omega), if_neg (by omega), if_neg (by omega)]
  simp only [List.cons_append, List.nil_append, List.cons.injEq, and_true]
  exact ⟨ofNat_eq (by omega), ofNat_eq (by omega), ofNat_eq (by omega), ofNat_eq (by omega)⟩

/-- What has begun with the bytes `part`. -/
structure Owes (part : List UInt8) (begun : Unfinished) : Prop where
  solid : part ≠ []
  above : 0x80 ≤ begun.low
  proper : begun.low ≤ begun.high
  below : begun.high ≤ 0xBF
  continues : Continues part begun.owed begun.low begun.high begun.value

/-- What is owed, if anything, are continuation bytes of a character. -/
def Sound (state : Option Unfinished) : Prop :=
  ∀ begun ∈ state, ∃ part, Owes part begun

theorem sound_none : Sound none := by
  simp [Sound]

/-- A character that owes bytes after some has been begun soundly. -/
theorem Owes.sound (owes : Owes part begun) : Sound (some begun) := by
  simpa [Sound] using ⟨part, owes⟩

/-! ## One byte -/

theorem first_ascii (ascii : IsAscii byte) : first byte = ([some (asciiChar byte)], none) :=
  if_pos ascii

theorem first_two (lower : 0xC2 ≤ byte.toNat) (upper : byte.toNat ≤ 0xDF) :
    first byte = ([], some ⟨0, 0x80, 0xBF, byte.toNat - 0xC0⟩) := by
  simp only [first]
  rw [if_neg (by omega), if_pos ⟨lower, upper⟩]

/-- Of three bytes, the first one decides what the second one may be. -/
theorem first_three (lower : 0xE0 ≤ byte.toNat) (upper : byte.toNat ≤ 0xEF) :
    first byte = ([], some ⟨1, if byte.toNat = 0xE0 then 0xA0 else 0x80, if byte.toNat = 0xED then 0x9F else 0xBF,
      byte.toNat - 0xE0⟩) := by
  simp only [first]
  rw [if_neg (by omega), if_neg (by omega)]
  by_cases least : byte.toNat = 0xE0
  · simp [least]
  by_cases surrogates : byte.toNat = 0xED
  · simp [surrogates]
  simp [least, surrogates, show 0xE1 ≤ byte.toNat by omega, upper]

/-- Of four bytes, the first one decides what the second one may be. -/
theorem first_four (lower : 0xF0 ≤ byte.toNat) (upper : byte.toNat ≤ 0xF4) :
    first byte = ([], some ⟨2, if byte.toNat = 0xF0 then 0x90 else 0x80, if byte.toNat = 0xF4 then 0x8F else 0xBF,
      byte.toNat - 0xF0⟩) := by
  simp only [first]
  rw [if_neg (by omega), if_neg (by omega), if_neg (by omega), if_neg (by omega), if_neg (by omega)]
  by_cases least : byte.toNat = 0xF0
  · simp [least]
  by_cases greatest : byte.toNat = 0xF4
  · simp [greatest]
  simp [least, greatest, show 0xF1 ≤ byte.toNat by omega, show byte.toNat ≤ 0xF3 by omega]

/-- A byte above ASCII begins a character or is unreadable. -/
theorem first_long (long : ¬ IsAscii byte) :
    first byte = ([none], none) ∨ ∃ begun, first byte = ([], some begun) ∧ Owes [byte] begun := by
  unfold IsAscii at long
  by_cases two : 0xC2 ≤ byte.toNat ∧ byte.toNat ≤ 0xDF
  · exact .inr ⟨_, first_two two.1 two.2, by simp, by simp, by simp, by simp, continues_two two.1 two.2⟩
  by_cases three : 0xE0 ≤ byte.toNat ∧ byte.toNat ≤ 0xEF
  · refine .inr ⟨_, first_three three.1 three.2, by simp, ?_, ?_, ?_, continues_three three.1 three.2 ?_ ?_ ?_ ?_⟩
    all_goals
      dsimp only
      split_ifs <;> omega
  by_cases four : 0xF0 ≤ byte.toNat ∧ byte.toNat ≤ 0xF4
  · refine .inr ⟨_, first_four four.1 four.2, by simp, ?_, ?_, ?_, continues_four four.1 four.2 ?_ ?_ ?_ ?_⟩
    all_goals
      dsimp only
      split_ifs <;> omega
  left
  simp only [first]
  rw [if_neg long, if_neg two, if_neg (by omega), if_neg (by omega), if_neg (by omega), if_neg (by omega),
    if_neg (by omega), if_neg (by omega)]

/-- The last byte completes the character. -/
theorem step_last {value : Nat} (lower : low ≤ byte.toNat) (upper : byte.toNat ≤ high) :
    step (some ⟨0, low, high, value⟩) byte = ([some (Char.ofNat (value * 64 + (byte.toNat - 0x80)))], none) :=
  if_pos ⟨lower, upper⟩

theorem step_next {owed value : Nat} (lower : low ≤ byte.toNat) (upper : byte.toNat ≤ high) :
    step (some ⟨owed + 1, low, high, value⟩) byte =
      ([], some ⟨owed, 0x80, 0xBF, value * 64 + (byte.toNat - 0x80)⟩) :=
  if_pos ⟨lower, upper⟩

/-- A byte that does not fit gives up what has begun and is read afresh. -/
theorem step_misfit (misfit : ¬ (begun.low ≤ byte.toNat ∧ byte.toNat ≤ begun.high)) :
    step (some begun) byte = (none :: (first byte).1, (first byte).2) :=
  if_neg misfit

/-- A byte that fits completes the character or brings it one byte further. -/
theorem Owes.step (owes : Owes part begun) (lower : begun.low ≤ byte.toNat) (upper : byte.toNat ≤ begun.high) :
    (∃ c, Utf8.step (some begun) byte = ([some c], none) ∧ String.utf8EncodeChar c = part ++ [byte]) ∨
      ∃ next, Utf8.step (some begun) byte = ([], some next) ∧ Owes (part ++ [byte]) next := by
  obtain ⟨owed, low, high, value⟩ := begun
  cases owed with
  | zero => exact .inl ⟨_, step_last lower upper, owes.continues byte lower upper⟩
  | succ owed =>
    exact .inr ⟨_, step_next lower upper, by simp, by simp, by simp, by simp, owes.continues byte lower upper⟩

/-- An ASCII byte ends what was begun, and stands for itself. -/
theorem step_ascii (sound : Sound state) (ascii : IsAscii byte) :
    step state byte = (piecesFrom state [] ++ [some (asciiChar byte)], none) := by
  cases state with
  | none => rw [step, first_ascii ascii, piecesFrom, List.nil_append]
  | some begun =>
    obtain ⟨part, owes⟩ := sound begun rfl
    have misfit : ¬ (begun.low ≤ byte.toNat ∧ byte.toNat ≤ begun.high) := by
      have above := owes.above
      unfold IsAscii at ascii
      omega
    rw [step_misfit misfit, first_ascii ascii]
    rfl

/-- What a byte above ASCII does: all it completes or gives up are characters of several bytes, and if there is
nothing of the kind, then something is owed. -/
structure LongStep (result : List Piece × Option Unfinished) : Prop where
  long : ∀ piece ∈ result.1, IsLong (piece.getD replacement)
  sound : Sound result.2
  owes : result.1 = [] → result.2.isSome

theorem isLong_of_utf8EncodeChar {c : Char} (solid : part ≠ []) (encoded : String.utf8EncodeChar c = part ++ [byte]) :
    IsLong c := by
  by_contra short
  unfold IsLong at short
  have one : String.utf8EncodeChar c = [UInt8.ofNat c.toNat] := if_pos (show c.toNat ≤ 127 by omega)
  have length := congrArg List.length (one.symm.trans encoded)
  have positive := List.length_pos_iff.mpr solid
  simp only [List.length_singleton, List.length_append] at length
  omega

/-- Any other byte yields long characters only. -/
theorem step_long (sound : Sound state) (long : ¬ IsAscii byte) : LongStep (step state byte) := by
  have afresh : LongStep (first byte) := by
    rcases first_long long with unreadable | ⟨begun, begins, owes⟩
    · rw [unreadable]
      exact ⟨by simp [isLong_replacement], sound_none, by simp⟩
    · rw [begins]
      exact ⟨by simp, owes.sound, by simp⟩
  cases state with
  | none => exact afresh
  | some begun =>
    obtain ⟨part, owes⟩ := sound begun rfl
    by_cases fits : begun.low ≤ byte.toNat ∧ byte.toNat ≤ begun.high
    · rcases owes.step fits.1 fits.2 with ⟨c, completed, encoded⟩ | ⟨next, goesOn, owesNext⟩
      · rw [completed]
        exact ⟨by simpa using isLong_of_utf8EncodeChar owes.solid encoded, sound_none, by simp⟩
      · rw [goesOn]
        exact ⟨by simp, owesNext.sound, by simp⟩
    · rw [step_misfit fits]
      exact ⟨List.forall_mem_cons.mpr ⟨isLong_replacement, afresh.long⟩, afresh.sound, by simp⟩

/-- What is begun after a byte is sound. -/
theorem sound_step (sound : Sound state) (byte : UInt8) : Sound (step state byte).2 := by
  by_cases ascii : IsAscii byte
  · rw [step_ascii sound ascii]
    exact sound_none
  · exact (step_long sound ascii).sound

/-! ## Decoding goes apart at ASCII bytes -/

/-- The text of what follows, starting with what is owed. -/
def textFrom (state : Option Unfinished) (bytes : List UInt8) : List Char :=
  (piecesFrom state bytes).map (·.getD replacement)

theorem decodeLossy_eq_textFrom (bytes : List UInt8) : decodeLossy bytes = textFrom none bytes :=
  rfl

@[simp] theorem decodeLossy_nil : decodeLossy [] = [] :=
  rfl

theorem piecesFrom_cons (state : Option Unfinished) (byte : UInt8) (rest : List UInt8) :
    piecesFrom state (byte :: rest) = (step state byte).1 ++ piecesFrom (step state byte).2 rest := by
  cases state <;> rfl

theorem textFrom_cons (state : Option Unfinished) (byte : UInt8) (rest : List UInt8) :
    textFrom state (byte :: rest) =
      (step state byte).1.map (·.getD replacement) ++ textFrom (step state byte).2 rest := by
  rw [textFrom, piecesFrom_cons, List.map_append]
  rfl

theorem textFrom_cons_ascii (sound : Sound state) (ascii : IsAscii byte) (rest : List UInt8) :
    textFrom state (byte :: rest) = textFrom state [] ++ asciiChar byte :: decodeLossy rest := by
  rw [textFrom_cons, step_ascii sound ascii, List.map_append, List.append_assoc]
  rfl

/-- Whatever was begun, the text after an ASCII byte is decoded on its own. -/
theorem textFrom_append_ascii (sound : Sound state) (ascii : IsAscii byte) (before after : List UInt8) :
    textFrom state (before ++ byte :: after) = textFrom state before ++ asciiChar byte :: decodeLossy after := by
  induction before generalizing state with
  | nil => exact textFrom_cons_ascii sound ascii after
  | cons next before ih =>
    rw [List.cons_append, textFrom_cons, ih (sound_step sound next), textFrom_cons, List.append_assoc]

/-- What stands before an ASCII byte and what stands after it do not meet. -/
theorem decodeLossy_append_cons (ascii : IsAscii byte) (before after : List UInt8) :
    decodeLossy (before ++ byte :: after) = decodeLossy before ++ asciiChar byte :: decodeLossy after :=
  textFrom_append_ascii sound_none ascii before after

/-- An ASCII byte is decoded to its character. -/
theorem decodeLossy_cons (ascii : IsAscii byte) (rest : List UInt8) :
    decodeLossy (byte :: rest) = asciiChar byte :: decodeLossy rest :=
  decodeLossy_append_cons ascii [] rest

theorem decodeLossy_ascii_append (ascii : ∀ byte ∈ pattern, IsAscii byte) (rest : List UInt8) :
    decodeLossy (pattern ++ rest) = decodeLossy pattern ++ decodeLossy rest := by
  induction pattern with
  | nil => rfl
  | cons byte pattern ih =>
    obtain ⟨here, later⟩ := List.forall_mem_cons.mp ascii
    rw [List.cons_append, decodeLossy_cons here, decodeLossy_cons here, ih later, List.cons_append]

theorem decodeLossy_append_append (solid : separator ≠ []) (ascii : ∀ byte ∈ separator, IsAscii byte)
    (before after : List UInt8) :
    decodeLossy (before ++ (separator ++ after)) =
      decodeLossy before ++ (decodeLossy separator ++ decodeLossy after) := by
  obtain ⟨byte, others, rfl⟩ := List.exists_cons_of_ne_nil solid
  obtain ⟨here, later⟩ := List.forall_mem_cons.mp ascii
  rw [List.cons_append, decodeLossy_append_cons here, decodeLossy_ascii_append later, decodeLossy_cons here,
    List.cons_append]

/-- Decoding goes piece by piece if the separator is ASCII. -/
theorem decodeLossy_joinWith (solid : separator ≠ []) (ascii : ∀ byte ∈ separator, IsAscii byte)
    (pieces : List (List UInt8)) :
    decodeLossy (joinWith separator pieces) = joinWith (decodeLossy separator) (pieces.map decodeLossy) := by
  induction pieces with
  | nil => rfl
  | cons piece others ih =>
    by_cases last : others = []
    · rw [last]
      rfl
    · rw [joinWith_cons last, decodeLossy_append_append solid ascii, ih, List.map_cons,
        joinWith_cons (by simpa using last)]

/-! ## Patterns and cuts -/

/-- The text of a byte above ASCII begins with a character of several bytes, and so does the text of what follows
as long as something is owed. -/
theorem isLong_of_head?_textFrom (sound : Sound state)
    (pending : state.isSome ∨ ∃ byte rest, bytes = byte :: rest ∧ ¬ IsAscii byte) :
    ∃ c ∈ (textFrom state bytes).head?, IsLong c := by
  induction bytes generalizing state with
  | nil =>
    obtain ⟨begun, rfl⟩ : ∃ begun, state = some begun := by simpa [Option.isSome_iff_exists] using pending
    exact ⟨replacement, rfl, isLong_replacement⟩
  | cons byte rest ih =>
    by_cases ascii : IsAscii byte
    · obtain ⟨begun, rfl⟩ : ∃ begun, state = some begun := by simpa [Option.isSome_iff_exists, ascii] using pending
      rw [textFrom_cons_ascii sound ascii]
      exact ⟨replacement, rfl, isLong_replacement⟩
    · have step := step_long sound ascii
      rw [textFrom_cons]
      cases completed : (Utf8.step state byte).1 with
      | nil => exact ih step.sound (.inl (step.owes completed))
      | cons piece others => exact ⟨piece.getD replacement, rfl, step.long piece (by simp [completed])⟩

/-- An ASCII pattern begins the text exactly if it begins the bytes. -/
theorem prefix_decodeLossy_iff (ascii : ∀ byte ∈ pattern, IsAscii byte) :
    decodeLossy pattern <+: decodeLossy bytes ↔ pattern <+: bytes := by
  induction pattern generalizing bytes with
  | nil => simp
  | cons byte pattern ih =>
    obtain ⟨here, later⟩ := List.forall_mem_cons.mp ascii
    rw [decodeLossy_cons here]
    cases bytes with
    | nil => simp
    | cons other rest =>
      by_cases asciiOther : IsAscii other
      · rw [decodeLossy_cons asciiOther, List.cons_prefix_cons, List.cons_prefix_cons, asciiChar_inj here asciiOther,
          ih later]
      · obtain ⟨c, head, long⟩ := isLong_of_head?_textFrom sound_none (.inr ⟨other, rest, rfl, asciiOther⟩)
        constructor
        · rintro ⟨tail, same⟩
          rw [← decodeLossy_eq_textFrom, ← same] at head
          obtain rfl : asciiChar byte = c := by simpa using head
          exact absurd long (not_isLong_asciiChar here)
        · intro start
          rw [List.cons_prefix_cons] at start
          exact absurd (start.1 ▸ here) asciiOther

/-- Characters of several bytes in front are no part of a match. -/
private theorem infix_append_iff_of_long (solid : pattern ≠ []) (ascii : ∀ byte ∈ pattern, IsAscii byte)
    {front text : List Char} (long : ∀ c ∈ front, IsLong c) :
    decodeLossy pattern <:+: front ++ text ↔ decodeLossy pattern <:+: text := by
  obtain ⟨byte, others, rfl⟩ := List.exists_cons_of_ne_nil solid
  induction front with
  | nil => rfl
  | cons c front ih =>
    obtain ⟨longHere, longLater⟩ := List.forall_mem_cons.mp long
    have here := (List.forall_mem_cons.mp ascii).1
    have differs : asciiChar byte ≠ c := by
      rintro rfl
      exact not_isLong_asciiChar here longHere
    rw [List.cons_append, List.infix_cons_iff, ih longLater, decodeLossy_cons here, List.cons_prefix_cons]
    simp [differs]

/-- What is owed at the end, or given up for an ASCII byte, is one unreadable character. -/
private theorem isLong_of_mem_textFrom_nil (state : Option Unfinished) : ∀ c ∈ textFrom state [], IsLong c := by
  cases state <;> simp [textFrom, piecesFrom, isLong_replacement]

/-- An ASCII pattern occurs in the text just when it occurs in the bytes, whatever was begun before them. -/
theorem infix_textFrom_iff (solid : pattern ≠ []) (ascii : ∀ byte ∈ pattern, IsAscii byte) (sound : Sound state) :
    decodeLossy pattern <:+: textFrom state bytes ↔ pattern <:+: bytes := by
  induction bytes generalizing state with
  | nil =>
    rw [← List.append_nil (textFrom state []),
      infix_append_iff_of_long solid ascii (isLong_of_mem_textFrom_nil state), List.infix_nil, List.infix_nil,
      ← List.prefix_nil, ← decodeLossy_nil, prefix_decodeLossy_iff ascii, List.prefix_nil]
  | cons next rest ih =>
    rw [List.infix_cons_iff, ← prefix_decodeLossy_iff ascii]
    by_cases asciiNext : IsAscii next
    · rw [textFrom_cons_ascii sound asciiNext,
        infix_append_iff_of_long solid ascii (isLong_of_mem_textFrom_nil state), List.infix_cons_iff,
        decodeLossy_cons asciiNext, ← ih sound_none, decodeLossy_eq_textFrom rest]
    · have step := step_long sound asciiNext
      have elsewhere : ¬ decodeLossy pattern <+: decodeLossy (next :: rest) := by
        rw [prefix_decodeLossy_iff ascii]
        obtain ⟨byte, others, rfl⟩ := List.exists_cons_of_ne_nil solid
        rw [List.cons_prefix_cons]
        rintro ⟨rfl, -⟩
        exact asciiNext (List.forall_mem_cons.mp ascii).1
      rw [textFrom_cons, infix_append_iff_of_long solid ascii (List.forall_mem_map.mpr step.long), ih step.sound]
      simp [elsewhere]

/-- An ASCII pattern stands in the text exactly if it stands in the bytes. -/
theorem occursIn_decodeLossy (solid : pattern ≠ []) (ascii : ∀ byte ∈ pattern, IsAscii byte) (bytes : List UInt8) :
    occursIn (decodeLossy pattern) (decodeLossy bytes) = occursIn pattern bytes := by
  rw [Bool.eq_iff_iff, occursIn_iff_isInfix, occursIn_iff_isInfix]
  exact infix_textFrom_iff solid ascii sound_none

/-- The pieces of the text are the texts of the pieces. -/
theorem splitOn_decodeLossy (unbordered : Unbordered (decodeLossy separator))
    (ascii : ∀ byte ∈ separator, IsAscii byte) (bytes : List UInt8) :
    splitOn (decodeLossy separator) (decodeLossy bytes) = (splitOn separator bytes).map decodeLossy := by
  have solid : separator ≠ [] := by
    rintro rfl
    exact unbordered.1 rfl
  obtain ⟨joined, free⟩ := joinWith_splitOn solid bytes
  rw [unbordered.splitOn_eq_iff (by simpa using splitOn_ne_nil solid bytes), ← decodeLossy_joinWith solid ascii, joined]
  refine ⟨rfl, List.forall_mem_map.mpr fun piece member inside => ?_⟩
  exact free piece member ((infix_textFrom_iff solid ascii sound_none).mp inside)

end Utf8

end Observatory.Text
