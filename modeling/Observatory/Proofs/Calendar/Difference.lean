import Observatory.Calendar.Timestamp
import Mathlib.Data.List.Basic

/-! # Differences of timestamps

The difference that counts leap seconds is not a subtraction of two instants: a leap second belongs to
the second that it follows. It is still antisymmetric, and two times without a difference in their order
have no difference at all. Where no leap second is involved, it is the subtraction of two instants, and
the order of timestamps is the order of those instants.
-/

namespace Observatory.Calendar.Timestamp

variable {t u v : Timestamp}

theorem secondOfDay_lt (t : Timestamp) : t.secondOfDay < 86400 := by
  have hour := t.hour_bound
  have minute := t.minute_bound
  have sec := t.sec_bound
  simp only [secondOfDay]
  omega

/-! ## Order -/

/-- Times are ordered by day, second and fraction, and a leap second comes with its fraction. -/
theorem before_iff :
    t.before u = true ↔ t.date.number < u.date.number ∨
      (t.date.number = u.date.number ∧ (t.secondOfDay < u.secondOfDay ∨
        (t.secondOfDay = u.secondOfDay ∧ t.nano < u.nano))) := by
  simp only [before, Bool.or_eq_true, Bool.and_eq_true, decide_eq_true_eq, beq_iff_eq]

theorem not_before_self (t : Timestamp) : ¬ t.before t = true := by
  rw [before_iff]
  omega

/-- The order of times is transitive. -/
theorem before_trans (first : t.before u = true) (second : u.before v = true) : t.before v = true := by
  rw [before_iff] at first second ⊢
  omega

theorem not_before_of_before (earlier : t.before u = true) : ¬ u.before t = true := fun later =>
  not_before_self t (before_trans earlier later)

/-- So is its complement, as any two times can be compared. -/
theorem not_before_trans (first : ¬ t.before u = true) (second : ¬ u.before v = true) :
    ¬ t.before v = true := by
  rw [before_iff] at first second ⊢
  omega

/-! ## Antisymmetry -/

@[simp] theorem difference_self (t : Timestamp) : t.difference t = 0 := by
  simp [difference]

/-- The difference changes its sign with the order of the times. -/
theorem difference_antisymm (t u : Timestamp) : t.difference u = -u.difference t := by
  simp only [difference, second, isLeapSecond, Bool.and_eq_true, decide_eq_true_eq]
  -- at most one of the two times is the earlier one, so at most one correction applies
  split_ifs <;> omega

/-- Neither before the other, so without a difference. -/
theorem difference_eq_zero_of_not_before (notBefore : ¬ t.before u = true)
    (notAfter : ¬ u.before t = true) : t.difference u = 0 := by
  rw [before_iff] at notBefore notAfter
  have sameSecond : t.secondOfDay = u.secondOfDay := by omega
  have sameDay : t.date.number = u.date.number := by omega
  have sameNano : t.nano = u.nano := by omega
  simp [difference, sameDay, sameSecond, sameNano]

/-- Two times are within a second if their difference is less than one either way. -/
theorem withinSecond_iff :
    t.withinSecond u = true ↔ t.difference u < second ∧ -(second : Int) < t.difference u := by
  simp only [withinSecond, Bool.and_eq_true, decide_eq_true_eq]

theorem withinSecond_comm (t u : Timestamp) : t.withinSecond u = u.withinSecond t := by
  rw [Bool.eq_iff_iff, withinSecond_iff, withinSecond_iff, difference_antisymm t u]
  omega

@[simp] theorem withinSecond_self (t : Timestamp) : t.withinSecond t = true := by
  rw [withinSecond_iff, difference_self]
  decide

/-- Times a second or more apart are ordered. -/
theorem before_or_before_of_not_withinSecond (apart : t.withinSecond u = false) :
    t.before u = true ∨ u.before t = true := by
  by_contra unordered
  simp only [not_or] at unordered
  have same := difference_eq_zero_of_not_before unordered.1 unordered.2
  have within : t.withinSecond u = true := by
    rw [withinSecond_iff, same]
    decide
  simp [within] at apart

/-! ## Times without leap seconds -/

/-- Nanoseconds since the first day of the calendar, leap seconds left out. -/
def instant (t : Timestamp) : Int :=
  (t.date.number * 86400 + t.secondOfDay) * second + t.nano

theorem nano_lt_of_not_isLeapSecond (regular : t.isLeapSecond = false) : t.nano < second := by
  simpa [isLeapSecond] using regular

/-- Without leap seconds, the difference is that of two numbers. -/
theorem difference_eq_instant_sub (regularLeft : t.isLeapSecond = false)
    (regularRight : u.isLeapSecond = false) : t.difference u = t.instant - u.instant := by
  simp only [difference, regularLeft, regularRight, instant, second, Bool.and_false, Bool.false_eq_true,
    ↓reduceIte]
  omega

/-- Without leap seconds, the order is that of two numbers. -/
theorem before_iff_instant_lt (regularLeft : t.isLeapSecond = false)
    (regularRight : u.isLeapSecond = false) : t.before u = true ↔ t.instant < u.instant := by
  have left := nano_lt_of_not_isLeapSecond regularLeft
  have right := nano_lt_of_not_isLeapSecond regularRight
  have leftDay := t.secondOfDay_lt
  have rightDay := u.secondOfDay_lt
  rw [before_iff]
  simp only [instant, second] at left right ⊢
  omega

end Observatory.Calendar.Timestamp
