import Observatory.Calendar.Date
import Observatory.Text.Blank
import Observatory.Text.Decimal

/-! # Timestamps

A timestamp is a date and a time of day to the nanosecond, without a zone. A leap second may follow
any minute: it is the 59th second with a full second of nanoseconds added, and it is written as
second 60.

Reading is generous: each number may have white space before it and need not have all its digits, and
whatever follows the first plus sign is a zone that is ignored. The fraction is mandatory. Writing is
canonical, and what is written is read back.
-/

namespace Observatory.Calendar

/-- Nanoseconds in a second. -/
def second : Nat := 1000000000

structure Timestamp where
  date : Date
  hour : Nat
  minute : Nat
  sec : Nat
  nano : Nat
  hour_bound : hour < 24
  minute_bound : minute < 60
  sec_bound : sec < 60
  nano_bound : nano < 2 * second
  leap : second ≤ nano → sec = 59
deriving DecidableEq, Repr

namespace Timestamp

/-- Seconds since midnight. -/
def secondOfDay (t : Timestamp) : Nat :=
  t.hour * 3600 + t.minute * 60 + t.sec

def isLeapSecond (t : Timestamp) : Bool :=
  second ≤ t.nano

/-- Earlier by day, then by second, then by nanosecond. -/
def before (t u : Timestamp) : Bool :=
  t.date.number < u.date.number ||
    (t.date.number == u.date.number &&
      (t.secondOfDay < u.secondOfDay || (t.secondOfDay == u.secondOfDay && t.nano < u.nano)))

/-- Nanoseconds from `u` to `t`. A leap second lies between two times of day if the earlier one is in
it and the later one is past its second. -/
def difference (t u : Timestamp) : Int :=
  let leapBetween : Int :=
    if u.secondOfDay < t.secondOfDay && u.isLeapSecond then 1
    else if t.secondOfDay < u.secondOfDay && t.isLeapSecond then -1
    else 0
  ((t.date.number - u.date.number) * 86400 + (t.secondOfDay - u.secondOfDay) + leapBetween) * second +
    (t.nano - u.nano)

/-- Less than one second apart, in either direction. -/
def withinSecond (t u : Timestamp) : Bool :=
  t.difference u < second && -(second : Int) < t.difference u

/-! ## Writing -/

def yearText (year : Int) : List Char :=
  if year < 0 then '-' :: Text.padded 4 year.natAbs else Text.padded 4 year.natAbs

/-- Date and time down to the second. A leap second is second 60. -/
def wholeText (t : Timestamp) : List Char :=
  yearText t.date.year ++ '-' :: Text.padded 2 t.date.month ++ '-' :: Text.padded 2 t.date.day ++
    'T' :: Text.padded 2 t.hour ++ ':' :: Text.padded 2 t.minute ++
    ':' :: Text.padded 2 (t.sec + t.nano / second)

/-- The shortest of no fraction, three, six and nine digits that loses nothing. -/
def toText (t : Timestamp) : List Char :=
  let fraction := t.nano % second
  t.wholeText ++
    if fraction = 0 then []
    else if fraction % 1000000 = 0 then '.' :: Text.padded 3 (fraction / 1000000)
    else if fraction % 1000 = 0 then '.' :: Text.padded 6 (fraction / 1000)
    else '.' :: Text.padded 9 fraction

/-- The tracer's own notation: always six digits of fraction, the rest cut off. -/
def toMicrosText (t : Timestamp) : List Char :=
  t.wholeText ++ '.' :: Text.padded 6 (t.nano % second / 1000)

/-! ## Reading -/

/-- The value of the digits at the front, at most `width` of them and at least one, and the rest. -/
def readNumber (width : Nat) (text : List Char) : Option (Nat × List Char) :=
  let digits := (text.take width).takeWhile fun c => (Text.digit? c).isSome
  match Text.readDigits (UInt64.size / 2 - 1) 0 digits with
  | .ok value => if digits.isEmpty then none else some (value, text.drop digits.length)
  | .error _ => none

/-- A number of one or two digits after white space. -/
def readPair (text : List Char) : Option (Nat × List Char) :=
  readNumber 2 (Text.trimStart text)

/-- A year after white space: up to four digits, or a minus sign and any number of digits. -/
def readYear (text : List Char) : Option (Int × List Char) :=
  match Text.trimStart text with
  | '-' :: rest => (readNumber rest.length rest).map fun (value, rest) => (-(value : Int), rest)
  | rest => (readNumber 4 rest).map fun (value, rest) => ((value : Int), rest)

/-- Exactly this character, with nothing before it. -/
def expect (c : Char) : List Char → Option (List Char)
  | [] => none
  | d :: rest => if c = d then some rest else none

/-- The timestamp with these numbers, if there is one. Second 60 is a leap second. -/
def ofNumbers? (date : Date) (hour minute sec nano : Nat) : Option Timestamp :=
  if bounds : hour < 24 ∧ minute < 60 ∧ nano < second then
    if secBound : sec < 60 then
      some ⟨date, hour, minute, sec, nano, bounds.1, bounds.2.1, secBound, by omega,
        fun leapNano => absurd leapNano (by omega)⟩
    else if sec = 60 then
      some ⟨date, hour, minute, 59, second + nano, bounds.1, bounds.2.1, by decide, by omega, fun _ => rfl⟩
    else none
  else none

/-- Nanoseconds from the digits of a fraction, of which the first nine count. -/
def fractionNanos (digits : List Char) : Option Nat :=
  match Text.readDigits second 0 ((digits ++ List.replicate 9 '0').take 9) with
  | .ok nanos => some nanos
  | .error _ => none

/-- What follows the first point, if that is one or more digits and nothing else. -/
def fractionDigits? (text : List Char) : Option (List Char) :=
  match text.dropWhile (· != '.') with
  | '.' :: digits =>
      if !digits.isEmpty && digits.all fun c => (Text.digit? c).isSome then some digits else none
  | _ => none

/-- Read a timestamp whose zone has been cut off and whose fraction is known. -/
def readParts? (text fraction : List Char) : Option Timestamp := do
  let (year, rest) ← readYear text
  let rest ← expect '-' rest
  let (month, rest) ← readPair rest
  let rest ← expect '-' rest
  let (day, rest) ← readPair rest
  let rest ← expect 'T' rest
  let (hour, rest) ← readPair rest
  let rest ← expect ':' rest
  let (minute, rest) ← readPair rest
  let rest ← expect ':' rest
  let (sec, rest) ← readPair rest
  let rest ← expect '.' rest
  if rest = fraction then
    let date ← Date.ofNumbers? year month day
    let nano ← fractionNanos fraction
    ofNumbers? date hour minute sec nano
  else none

/-- The timestamp a text stands for, with an optional zone that is ignored. -/
def read? (text : List Char) : Option Timestamp := do
  let zoneless := text.takeWhile (· != '+')
  let fraction ← fractionDigits? zoneless
  readParts? zoneless fraction

end Timestamp

end Observatory.Calendar
