import Observatory.Calendar.Timestamp

/-! # Timestamps with a zone

The cluster's notation for an instant: a date, a time of day and an offset from universal time. Reading
is generous. White space may stand before every number, before every separator inside the date and the
time of day, and before the zone; the date and the time are parted by a single `T` or space. The
fraction is optional, the zone is not.
-/

namespace Observatory.Calendar

/-- The last year that can be represented. -/
def lastYear : Int := 262142

/-- A date and time of day, and how many seconds they are ahead of universal time. -/
structure ZonedTimestamp where
  local_ : Timestamp
  offset : Int
deriving DecidableEq, Repr

namespace ZonedTimestamp

/-- Seconds of universal time since the first day of the calendar. -/
def universal (t : ZonedTimestamp) : Int :=
  t.local_.date.number * 86400 + t.local_.secondOfDay - t.offset

/-- The instant lies in the years that can be represented, in universal time and at its own offset. -/
def isRepresentable (t : ZonedTimestamp) : Bool :=
  t.local_.date.year ≤ lastYear && (daysBeforeYear firstYear + 1) * 86400 ≤ t.universal &&
    t.universal < (daysBeforeYear (lastYear + 1) + 1) * 86400

/-- A year after white space: up to four digits, or a sign and any number of digits. -/
def readYear (text : List Char) : Option (Int × List Char) :=
  match Text.trimStart text with
  | '+' :: rest => (Timestamp.readNumber rest.length rest).map fun (value, rest) => ((value : Int), rest)
  | rest => Timestamp.readYear rest

/-- This character, after white space. -/
def expectSpaced (c : Char) (text : List Char) : Option (List Char) :=
  Timestamp.expect c (Text.trimStart text)

/-- The single character between date and time. -/
def expectBreak : List Char → Option (List Char)
  | 'T' :: rest | 't' :: rest | ' ' :: rest => some rest
  | _ => none

def isDigit (c : Char) : Bool :=
  (Text.digit? c).isSome

/-- Nanoseconds after a point. Without a point there are none. -/
def readFraction : List Char → Option (Nat × List Char)
  | '.' :: rest =>
      let digits := rest.takeWhile isDigit
      if digits.isEmpty then none
      else (Timestamp.fractionNanos digits).map (·, rest.dropWhile isDigit)
  | rest => some (0, rest)

/-- A number of exactly two digits. -/
def readTwoDigits : List Char → Option (Nat × List Char)
  | tens :: ones :: rest => do
      return ((← Text.digit? tens) * 10 + (← Text.digit? ones), rest)
  | _ => none

/-- Hours and minutes, with any colons and white space between them, in seconds. -/
def readHoursMinutes (text : List Char) : Option (Nat × List Char) := do
  let (hours, rest) ← readTwoDigits text
  let (minutes, rest) ← readTwoDigits (rest.dropWhile fun c => c = ':' || Text.isBlank c)
  if minutes < 60 then return (hours * 3600 + minutes * 60, rest) else none

/-- The offset of a zone: a name of universal time, or a sign with hours and minutes. -/
def readZone (text : List Char) : Option (Int × List Char) :=
  if (text.take 3).map Char.toUpper = ['U', 'T', 'C'] then some (0, text.drop 3)
  else
    match text with
    | 'Z' :: rest | 'z' :: rest => some (0, rest)
    | '+' :: rest => (readHoursMinutes rest).map fun (seconds, rest) => ((seconds : Int), rest)
    | '-' :: rest | '−' :: rest =>
        (readHoursMinutes rest).map fun (seconds, rest) => (-(seconds : Int), rest)
    | _ => none

/-- The instant that a text stands for. An offset is less than a day. -/
def read? (text : List Char) : Option ZonedTimestamp := do
  let (year, rest) ← readYear text
  let rest ← expectSpaced '-' rest
  let (month, rest) ← Timestamp.readPair rest
  let rest ← expectSpaced '-' rest
  let (day, rest) ← Timestamp.readPair rest
  let rest ← expectBreak rest
  let (hour, rest) ← Timestamp.readPair rest
  let rest ← expectSpaced ':' rest
  let (minute, rest) ← Timestamp.readPair rest
  let rest ← expectSpaced ':' rest
  let (sec, rest) ← Timestamp.readPair rest
  let (nano, rest) ← readFraction rest
  let (offset, rest) ← readZone (Text.trimStart rest)
  let date ← Date.ofNumbers? year month day
  let timestamp ← Timestamp.ofNumbers? date hour minute sec nano
  let zoned : ZonedTimestamp := ⟨timestamp, offset⟩
  if (Text.trimStart rest).isEmpty && offset.natAbs < 86400 && zoned.isRepresentable then
    return zoned
  else none

end ZonedTimestamp

end Observatory.Calendar
