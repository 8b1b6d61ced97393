import Observatory.Calendar.Timestamp
import Observatory.Proofs.Text.Decimal

/-! # Timestamps as text

Many texts are read as the same timestamp, and one of them is written. Main statement: what is written of a
timestamp with its microseconds, with or without a zone after it, is read back as the timestamp with the rest
of its fraction cut off. Years of more than four digits have no such text, but they are not read either.
-/

namespace Observatory.Calendar

theorem daysInMonth_le (year : Int) (month : Nat) : daysInMonth year month ≤ 31 := by
  unfold daysInMonth
  split <;> (try split) <;> omega

/-- Only the twelve months have days. -/
theorem month_le_of_daysInMonth_pos {year : Int} {month : Nat} (exists_day : 0 < daysInMonth year month) :
    month ≤ 12 := by
  unfold daysInMonth at exists_day
  split at exists_day <;> omega

theorem Date.month_le (date : Date) : date.month ≤ 12 :=
  month_le_of_daysInMonth_pos (Nat.lt_of_lt_of_le date.day_pos date.day_bound)

theorem Date.day_le (date : Date) : date.day ≤ 31 :=
  Nat.le_trans date.day_bound (daysInMonth_le ..)

theorem Date.year_of_ofNumbers? {year : Int} {month day : Nat} {date : Date}
    (valid : ofNumbers? year month day = some date) : date.year = year := by
  unfold ofNumbers? at valid
  split_ifs at valid
  rw [← Option.some.inj valid]

/-- A date is made of its own numbers. -/
theorem Date.ofNumbers?_self (date : Date) : ofNumbers? date.year date.month date.day = some date := by
  rw [ofNumbers?, dif_pos date.year_bound, dif_pos date.day_pos, dif_pos date.day_bound]

namespace Timestamp

variable {t : Timestamp} {text digits rest zone : List Char} {width n : Nat}

/-- The timestamp with its fraction cut off after the microseconds. -/
def toMicros (t : Timestamp) : Timestamp where
  date := t.date
  hour := t.hour
  minute := t.minute
  sec := t.sec
  nano := t.nano / 1000 * 1000
  hour_bound := t.hour_bound
  minute_bound := t.minute_bound
  sec_bound := t.sec_bound
  nano_bound := Nat.lt_of_le_of_lt (Nat.div_mul_le_self ..) t.nano_bound
  leap long := t.leap (Nat.le_trans long (Nat.div_mul_le_self ..))

/-! ## Reading numbers -/

/-- A number ends after as many digits as it may have, or where something else than a digit follows. -/
theorem readNumber_append (solid : digits ≠ []) (isDigits : ∀ c ∈ digits, c.isDigit = true)
    (short : digits.length ≤ width)
    (ends : digits.length = width ∨ ∀ c, rest.head? = some c → c.isDigit = false)
    (small : Nat.ofDigitChars 10 digits 0 ≤ UInt64.size / 2 - 1) :
    readNumber width (digits ++ rest) = some (Nat.ofDigitChars 10 digits 0, rest) := by
  have nothing : (rest.take (width - digits.length)).takeWhile (fun c => (Text.digit? c).isSome) = [] := by
    rcases ends with full | follows
    · rw [full, Nat.sub_self, List.take_zero, List.takeWhile_nil]
    · cases rest with
      | nil => rw [List.take_nil, List.takeWhile_nil]
      | cons c rest =>
        cases width - digits.length with
        | zero => rw [List.take_zero, List.takeWhile_nil]
        | succ more =>
          have other : ¬ (Text.digit? c).isSome = true := by simp [Text.isSome_digit?, follows c rfl]
          rw [List.take_succ_cons]
          exact List.takeWhile_cons_of_neg other
  have front : ((digits ++ rest).take width).takeWhile (fun c => (Text.digit? c).isSome) = digits := by
    rw [List.take_append, List.take_of_length_le short, List.takeWhile_append_of_pos, nothing, List.append_nil]
    intro c member
    rw [Text.isSome_digit?]
    exact isDigits c member
  have read := (Text.readDigits_eq_ok_iff (Nat.zero_le _)).mpr ⟨isDigits, rfl, small⟩
  simp only [readNumber, front, read]
  rw [if_neg (by simpa using solid), List.drop_left]

private theorem trimStart_append (solid : digits ≠ []) (isDigits : ∀ c ∈ digits, c.isDigit = true)
    (rest : List Char) : Text.trimStart (digits ++ rest) = digits ++ rest := by
  obtain ⟨c, others, rfl⟩ := List.exists_cons_of_ne_nil solid
  exact Text.trimStart_cons (Text.isBlank_of_isDigit (isDigits c (List.mem_cons_self ..))) _

/-- Two digits are read as they were written. -/
theorem readPair_padded (small : n < 100) (rest : List Char) :
    readPair (Text.padded 2 n ++ rest) = some (n, rest) := by
  have isDigits : ∀ c ∈ Text.padded 2 n, c.isDigit = true := fun c => Text.isDigit_of_mem_padded
  have length : (Text.padded 2 n).length = 2 := Text.length_padded (by decide) small
  have value := Text.ofDigitChars_padded 2 n
  have bound : Nat.ofDigitChars 10 (Text.padded 2 n) 0 ≤ UInt64.size / 2 - 1 := by
    rw [value, UInt64.size]
    omega
  rw [readPair, trimStart_append (Text.padded_ne_nil 2 n) isDigits,
    readNumber_append (Text.padded_ne_nil 2 n) isDigits (Nat.le_of_eq length) (.inl length) bound, value]

/-- A year of at most four digits is read back, and so is every negative year. -/
theorem readYear_yearText {year : Int} (early : firstYear ≤ year) (late : year ≤ 9999) (rest : List Char) :
    readYear (yearText year ++ '-' :: rest) = some (year, '-' :: rest) := by
  have isDigits : ∀ c ∈ Text.padded 4 year.natAbs, c.isDigit = true := fun c => Text.isDigit_of_mem_padded
  have solid := Text.padded_ne_nil 4 year.natAbs
  have value := Text.ofDigitChars_padded 4 year.natAbs
  have bound : Nat.ofDigitChars 10 (Text.padded 4 year.natAbs) 0 ≤ UInt64.size / 2 - 1 := by
    rw [value, UInt64.size]
    unfold firstYear at early
    omega
  by_cases negative : year < 0
  · have dash : Text.isBlank '-' = false := by decide
    have short : (Text.padded 4 year.natAbs).length ≤ (Text.padded 4 year.natAbs ++ '-' :: rest).length := by simp
    have follows : ∀ c, ('-' :: rest).head? = some c → c.isDigit = false := by
      rintro c ⟨⟩
      decide
    rw [yearText, if_pos negative, List.cons_append, readYear, Text.trimStart_cons dash]
    simp only [readNumber_append solid isDigits short (.inr follows) bound, value, Option.map_some, Option.some.injEq,
      Prod.mk.injEq, and_true]
    omega
  · have length : (Text.padded 4 year.natAbs).length = 4 := Text.length_padded (by decide) (by omega)
    have read : readNumber 4 (Text.padded 4 year.natAbs ++ '-' :: rest) = _ :=
      readNumber_append solid isDigits (Nat.le_of_eq length) (.inl length) bound
    rw [yearText, if_neg negative, readYear, trimStart_append solid isDigits]
    split
    · -- a digit is no minus sign
      rename_i later same
      obtain ⟨c, others, digits⟩ := List.exists_cons_of_ne_nil solid
      rw [digits, List.cons_append, List.cons_eq_cons] at same
      have first := isDigits c (by simp [digits])
      rw [same.1] at first
      exact absurd first (by decide)
    · rw [read, value]
      simp only [Option.map_some, Option.some.injEq, Prod.mk.injEq, and_true]
      omega

/-- Six digits of fraction are microseconds. -/
theorem fractionNanos_padded (small : n < 1000000) : fractionNanos (Text.padded 6 n) = some (n * 1000) := by
  have length : (Text.padded 6 n).length = 6 := Text.length_padded (by decide) small
  have nine : (Text.padded 6 n ++ List.replicate 9 '0').take 9 = Text.padded 6 n ++ List.replicate 3 '0' := by
    rw [List.take_append, length, List.take_of_length_le (by omega), List.take_replicate]
    rfl
  have isDigits : ∀ c ∈ Text.padded 6 n ++ List.replicate 3 '0', c.isDigit = true := by
    intro c member
    rcases List.mem_append.mp member with digit | zero
    · exact Text.isDigit_of_mem_padded digit
    · rw [List.eq_of_mem_replicate zero]
      decide
  have value : Nat.ofDigitChars 10 (Text.padded 6 n ++ List.replicate 3 '0') 0 = n * 1000 := by
    rw [Nat.ofDigitChars_append, Text.ofDigitChars_padded, Nat.ofDigitChars_replicate_zero]
    omega
  have bound : n * 1000 ≤ second := by
    unfold second
    omega
  rw [fractionNanos, nine, (Text.readDigits_eq_ok_iff (Nat.zero_le _)).mpr ⟨isDigits, value, bound⟩]

/-! ## Reading what is written -/

/-- There is no point before the fraction. -/
theorem mem_wholeText {c : Char} (member : c ∈ t.wholeText) : c.isDigit = true ∨ c = '-' ∨ c = 'T' ∨ c = ':' := by
  have year : c ∈ yearText t.date.year → c.isDigit = true ∨ c = '-' := by
    unfold yearText
    split
    · intro signed
      rcases List.mem_cons.mp signed with dash | digit
      · exact .inr dash
      · exact .inl (Text.isDigit_of_mem_padded digit)
    · exact fun digit => .inl (Text.isDigit_of_mem_padded digit)
  have pair (n : Nat) : c ∈ Text.padded 2 n → c.isDigit = true := Text.isDigit_of_mem_padded
  simp only [wholeText, List.mem_append, List.mem_cons] at member
  grind

/-- The fraction is what stands behind the point. -/
theorem fractionDigits?_toMicrosText (t : Timestamp) :
    fractionDigits? t.toMicrosText = some (Text.padded 6 (t.nano % second / 1000)) := by
  have isDigits : ∀ c ∈ Text.padded 6 (t.nano % second / 1000), c.isDigit = true := fun c =>
    Text.isDigit_of_mem_padded
  have whole : ∀ c ∈ t.wholeText, (c != '.') = true := by
    intro c member
    rw [bne_iff_ne]
    rintro rfl
    exact absurd (mem_wholeText member) (by decide)
  have dropped : t.toMicrosText.dropWhile (· != '.') = '.' :: Text.padded 6 (t.nano % second / 1000) := by
    rw [toMicrosText, List.dropWhile_append_of_pos whole, List.dropWhile_cons_of_neg (by decide)]
  rw [fractionDigits?, dropped]
  simpa [Text.padded_ne_nil, Text.isSome_digit?] using isDigits

theorem ofNumbers?_toMicros (t : Timestamp) :
    ofNumbers? t.date t.hour t.minute (t.sec + t.nano / second) (t.nano % second / 1000 * 1000) = some t.toMicros := by
  have bounds : t.hour < 24 ∧ t.minute < 60 ∧ t.nano % second / 1000 * 1000 < second := by
    refine ⟨t.hour_bound, t.minute_bound, ?_⟩
    have below := Nat.mod_lt t.nano (by decide : 0 < second)
    omega
  have nano_bound := t.nano_bound
  have sec_bound := t.sec_bound
  have leap := t.leap
  rw [ofNumbers?, dif_pos bounds]
  by_cases long : second ≤ t.nano
  · -- second 60 is the 59th with a second of nanoseconds added
    have last := leap long
    have carried : t.nano / second = 1 := by
      unfold second at *
      omega
    rw [dif_neg (by omega), if_pos (by omega)]
    simp only [toMicros, Option.some.injEq, mk.injEq, true_and]
    unfold second at *
    omega
  · have carried : t.nano / second = 0 := Nat.div_eq_of_lt (by omega)
    rw [dif_pos (by omega)]
    simp only [toMicros, Option.some.injEq, mk.injEq, true_and]
    unfold second at *
    omega

/-- The parts of a time are read as they were written. -/
theorem readParts?_toMicrosText (late : t.date.year ≤ 9999) :
    readParts? t.toMicrosText (Text.padded 6 (t.nano % second / 1000)) = some t.toMicros := by
  have month := Nat.lt_of_le_of_lt t.date.month_le (by decide : 12 < 100)
  have day := Nat.lt_of_le_of_lt t.date.day_le (by decide : 31 < 100)
  have hour := Nat.lt_trans t.hour_bound (by decide : 24 < 100)
  have minute := Nat.lt_trans t.minute_bound (by decide : 60 < 100)
  have sec : t.sec + t.nano / second < 100 := by
    have sec_bound := t.sec_bound
    have carried : t.nano / second < 2 := Nat.div_lt_of_lt_mul (by rw [Nat.mul_comm]; exact t.nano_bound)
    omega
  have fraction : t.nano % second / 1000 < 1000000 := by
    have below := Nat.mod_lt t.nano (by decide : 0 < second)
    unfold second at *
    omega
  simp only [readParts?, toMicrosText, wholeText, List.append_assoc, List.cons_append,
    readYear_yearText t.date.year_bound late, readPair_padded month, readPair_padded day, readPair_padded hour,
    readPair_padded minute, readPair_padded sec, expect, Option.bind_eq_bind, Option.bind_some, ↓reduceIte,
    Date.ofNumbers?_self, fractionNanos_padded fraction, ofNumbers?_toMicros]

/-- What is written is read back to the microsecond, whatever zone follows. -/
theorem read?_toMicrosText (late : t.date.year ≤ 9999) (zoned : zone = [] ∨ zone.head? = some '+') :
    read? (t.toMicrosText ++ zone) = some t.toMicros := by
  have written : ∀ c ∈ t.toMicrosText, (c != '+') = true := by
    intro c member
    rw [bne_iff_ne]
    rintro rfl
    rcases List.mem_append.mp member with whole | fraction
    · exact absurd (mem_wholeText whole) (by decide)
    · rcases List.mem_cons.mp fraction with point | digit
      · exact absurd point (by decide)
      · exact absurd (Text.isDigit_of_mem_padded digit) (by decide)
  have zoneless : (t.toMicrosText ++ zone).takeWhile (· != '+') = t.toMicrosText := by
    rw [List.takeWhile_append_of_pos written]
    rcases zoned with rfl | plus
    · rw [List.takeWhile_nil, List.append_nil]
    · obtain ⟨rest, rfl⟩ : ∃ rest, zone = '+' :: rest := by
        cases zone with
        | nil => contradiction
        | cons c rest => exact ⟨rest, by rw [Option.some.inj plus]⟩
      rw [List.takeWhile_cons_of_neg (by decide), List.append_nil]
  simp only [read?, zoneless, fractionDigits?_toMicrosText, Option.bind_eq_bind, Option.bind_some,
    readParts?_toMicrosText late]

/-! ## Years that are read -/

theorem date_of_ofNumbers? {date : Date} {hour minute sec nano : Nat}
    (valid : ofNumbers? date hour minute sec nano = some t) : t.date = date := by
  unfold ofNumbers? at valid
  split_ifs at valid <;> rw [← Option.some.inj valid]

private theorem readNumber_lt {rest : List Char} (read : readNumber width text = some (n, rest)) : n < 10 ^ width := by
  simp only [readNumber] at read
  split at read
  · rename_i value result
    split at read
    · contradiction
    · obtain ⟨rfl, -⟩ : value = n ∧ _ := by simpa using read
      obtain ⟨isDigits, rfl, -⟩ := (Text.readDigits_eq_ok_iff (Nat.zero_le _)).mp result
      have short : ((text.take width).takeWhile fun c => (Text.digit? c).isSome).length ≤ width :=
        Nat.le_trans (List.takeWhile_prefix _).length_le (List.length_take_le ..)
      exact Nat.lt_of_lt_of_le (Text.ofDigitChars_lt isDigits) (Nat.pow_le_pow_right (by decide) short)
  · contradiction

theorem year_le_of_readYear {year : Int} (read : readYear text = some (year, rest)) : year ≤ 9999 := by
  unfold readYear at read
  split at read
  · obtain ⟨⟨value, after⟩, -, same⟩ := Option.map_eq_some_iff.mp read
    obtain ⟨rfl, -⟩ := Prod.mk.inj same
    omega
  · obtain ⟨⟨value, after⟩, digits, same⟩ := Option.map_eq_some_iff.mp read
    obtain ⟨rfl, -⟩ := Prod.mk.inj same
    have bound := readNumber_lt digits
    omega

/-- A time that was read has a year of four digits at most. -/
theorem year_le_of_read? (read : read? text = some t) : t.date.year ≤ 9999 := by
  obtain ⟨fraction, -, parts⟩ := Option.bind_eq_some_iff.mp read
  obtain ⟨⟨year, _⟩, readYear, parts⟩ := Option.bind_eq_some_iff.mp parts
  -- the other five numbers, each after its punctuation, and the point
  iterate 5
    obtain ⟨_, -, parts⟩ := Option.bind_eq_some_iff.mp parts
    obtain ⟨⟨_, _⟩, -, parts⟩ := Option.bind_eq_some_iff.mp parts
  obtain ⟨_, -, parts⟩ := Option.bind_eq_some_iff.mp parts
  split at parts
  · obtain ⟨date, validDate, parts⟩ := Option.bind_eq_some_iff.mp parts
    obtain ⟨nano, -, valid⟩ := Option.bind_eq_some_iff.mp parts
    rw [date_of_ofNumbers? valid, Date.year_of_ofNumbers? validDate]
    exact year_le_of_readYear readYear
  · contradiction

end Timestamp

end Observatory.Calendar
