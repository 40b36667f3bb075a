/-!
# Dates and times

Days of the calendar, and dates with a time of day, with or without an offset
from universal time.
-/

namespace SearchQuery

/-!
## Calendar dates

Dates of the Gregorian calendar extended backwards to year one, and their
numbering by consecutive days starting with day one.
-/

/-- A calendar date. -/
structure Date where
  year : Nat
  month : Nat
  day : Nat
deriving DecidableEq

namespace Date

/-- Years divisible by four are leap years, full centuries only every fourth time. -/
def isLeap (year : Nat) : Bool :=
  year % 4 == 0 && (year % 100 != 0 || year % 400 == 0)

def daysInMonth (year month : Nat) : Nat :=
  if month = 2 then (if isLeap year then 29 else 28)
  else if month = 4 ∨ month = 6 ∨ month = 9 ∨ month = 11 then 30
  else 31

/-- A date exists when its year has four digits and its month and day are in range. -/
def valid (d : Date) : Bool :=
  1 ≤ d.year && d.year ≤ 9999 && 1 ≤ d.month && d.month ≤ 12 && 1 ≤ d.day &&
    d.day ≤ daysInMonth d.year d.month

/-- The number of days before the first of January of a year. -/
def daysBeforeYear (year : Nat) : Nat :=
  let past := year - 1
  past * 365 + past / 4 - past / 100 + past / 400

/-- The number of days of a year before the first of a month. -/
def daysBeforeMonth (year month : Nat) : Nat :=
  (List.range (month - 1)).foldl (fun total before => total + daysInMonth year (before + 1)) 0

/-- The number of a date, the first of January of year one being day one. -/
def ordinal (d : Date) : Nat :=
  daysBeforeYear d.year + daysBeforeMonth d.year d.month + d.day

/-- The date with a given number, found from the four-hundred-year cycle that
starts in March, where the leap day comes last. -/
def ofOrdinal (number : Nat) : Date :=
  let shifted := number + 305
  let era := shifted / 146097
  let dayOfEra := shifted % 146097
  let yearOfEra := (dayOfEra - dayOfEra / 1460 + dayOfEra / 36524 - dayOfEra / 146096) / 365
  let dayOfYear := dayOfEra - (365 * yearOfEra + yearOfEra / 4 - yearOfEra / 100)
  let shiftedMonth := (5 * dayOfYear + 2) / 153
  let day := dayOfYear - (153 * shiftedMonth + 2) / 5 + 1
  let month := if shiftedMonth < 10 then shiftedMonth + 3 else shiftedMonth - 9
  let year := yearOfEra + era * 400 + (if month ≤ 2 then 1 else 0)
  ⟨year, month, day⟩

def epochOrdinal : Nat :=
  719163

def padded (width n : Nat) : String :=
  let digits := Nat.repr n
  String.ofList (List.replicate (width - digits.length) '0') ++ digits

def isoText (d : Date) : String :=
  padded 4 d.year ++ "-" ++ padded 2 d.month ++ "-" ++ padded 2 d.day

/-- The value of a run of decimal digits, or nothing when a character is no digit. -/
def readNat? (chars : List Char) : Option Nat :=
  if chars.isEmpty || !chars.all Char.isDigit then none
  else some (chars.foldl (fun total c => total * 10 + (c.toNat - '0'.toNat)) 0)

/-- Reads a date written with four, two and two digits. -/
def ofChars? : List Char → Option Date
  | [a, b, c, d, '-', e, f, '-', g, h] => do
    let date := Date.mk (← readNat? [a, b, c, d]) (← readNat? [e, f]) (← readNat? [g, h])
    if date.valid then some date else none
  | _ => none

example : ofOrdinal 1 = ⟨1, 1, 1⟩ ∧ ofOrdinal 719163 = ⟨1970, 1, 1⟩ := by decide

example : (Date.mk 2000 2 29).ordinal = 730179 ∧ ofOrdinal 730179 = ⟨2000, 2, 29⟩ := by decide

end Date

/-!
## Dates with a time of day

A date with a time of day, to the microsecond, may carry its offset from
universal time.  With an offset it denotes an instant; without one it only
tells the wall clock, and the two kinds do not compare.
-/

/-- A date with a time of day and perhaps an offset, in microseconds. -/
structure DateTime where
  date : Date
  hour : Nat
  minute : Nat
  second : Nat
  microsecond : Nat
  offset : Option Int
deriving DecidableEq

namespace DateTime

def dayLength : Int :=
  86400000000

/-- Microseconds of the wall clock since the midnight before day zero. -/
def wall (t : DateTime) : Int :=
  ((((t.date.ordinal : Int) * 24 + t.hour) * 60 + t.minute) * 60 + t.second) * 1000000 +
    t.microsecond

def isAware (t : DateTime) : Bool :=
  t.offset.isSome

/-- Microseconds of universal time; a missing offset counts as zero. -/
def instant (t : DateTime) : Int :=
  t.wall - t.offset.getD 0

/-- The first of January 1970, on the scale of `instant`. -/
def epoch : Int :=
  719163 * 86400000000

/-- Two date-times compare when both or neither have an offset. -/
def comparable (a b : DateTime) : Bool :=
  a.isAware == b.isAware

/-- Earlier, by instant or by wall clock; only meaningful for comparable ones. -/
def before (a b : DateTime) : Bool :=
  a.instant < b.instant

/-- Equal as times; a known offset never equals an unknown one. -/
def same (a b : DateTime) : Bool :=
  a.comparable b && a.instant == b.instant

/-- The date-time whose wall clock shows a given count of microseconds, when it
falls in the years one to 9999. -/
def ofWall? (micros : Int) (offset : Option Int) : Option DateTime :=
  let days := micros.fdiv dayLength
  let rest := (micros.fmod dayLength).toNat
  let seconds := rest / 1000000
  let date := Date.ofOrdinal days.toNat
  if days < 1 ∨ 9999 < date.year then none
  else
    some ⟨date, seconds / 3600, seconds / 60 % 60, seconds % 60, rest % 1000000, offset⟩

/-- Hours, minutes, seconds and microseconds of an offset's absolute value. -/
def offsetParts (offset : Int) : Nat × Nat × Nat × Nat :=
  let micros := offset.natAbs
  let seconds := micros / 1000000
  (seconds / 3600, seconds / 60 % 60, seconds % 60, micros % 1000000)

/-- An offset with its sign; seconds and their fraction only when they are not zero. -/
def offsetText (separator : String) (offset : Int) : String :=
  let (hours, minutes, seconds, micros) := offsetParts offset
  (if offset < 0 then "-" else "+") ++ Date.padded 2 hours ++ separator ++
    Date.padded 2 minutes ++
    (if seconds = 0 ∧ micros = 0 then "" else separator ++ Date.padded 2 seconds) ++
    (if micros = 0 then "" else "." ++ Date.padded 6 micros)

/-- Hours, minutes and seconds separated by colons. -/
def clockText (t : DateTime) : String :=
  Date.padded 2 t.hour ++ ":" ++ Date.padded 2 t.minute ++ ":" ++ Date.padded 2 t.second

/-- Date and time around a separator, the fraction only when it is not zero. -/
def textWith (separator : String) (t : DateTime) : String :=
  t.date.isoText ++ separator ++ t.clockText ++
    (if t.microsecond = 0 then "" else "." ++ Date.padded 6 t.microsecond) ++
    (match t.offset with
      | none => ""
      | some offset => offsetText ":" offset)

def isoText (t : DateTime) : String :=
  t.textWith "T"

/-- Milliseconds of universal time since the first of January 1970, rounded down. -/
def epochMillis (t : DateTime) : Int :=
  (t.instant - epoch).fdiv 1000

/-- Reads the fraction of a second: up to six digits after a point. -/
def readFraction? (chars : List Char) : Option Nat :=
  if 6 < chars.length then none
  else Date.readNat? (chars ++ List.replicate (6 - chars.length) '0')

/-- Reads `HH:MM`, `HH:MM:SS` or `HH:MM:SS.ffffff` as microseconds. -/
def readClock? : List Char → Option Nat
  | [a, b, ':', c, d] => do
    some (((← Date.readNat? [a, b]) * 60 + (← Date.readNat? [c, d])) * 60000000)
  | a :: b :: ':' :: c :: d :: ':' :: e :: f :: rest => do
    let seconds := ((← Date.readNat? [a, b]) * 60 + (← Date.readNat? [c, d])) * 60 +
      (← Date.readNat? [e, f])
    let fraction ← match rest with
      | [] => some 0
      | '.' :: digits => readFraction? digits
      | _ => none
    some (seconds * 1000000 + fraction)
  | _ => none

def readOffset? : List Char → Option (Option Int)
  | [] => some none
  | ['Z'] => some (some 0)
  | '+' :: clock => do some (some (← readClock? clock))
  | '-' :: clock => do some (some (-(← readClock? clock : Nat)))
  | _ => none

def ofIso? (s : String) : Option DateTime := do
  let chars := s.toList
  let date ← Date.ofChars? (chars.take 10)
  let time := (chars.drop 11).takeWhile (fun c => c.isDigit || c == ':' || c == '.')
  let micros ← readClock? time
  let offset ← readOffset? (chars.drop (11 + time.length))
  let seconds := micros / 1000000
  some ⟨date, seconds / 3600, seconds / 60 % 60, seconds % 60, micros % 1000000, offset⟩

/-- Being earlier is transitive, as instants are integers. -/
theorem before_trans {a b c : DateTime} (first : a.before b = true) (second : b.before c = true) :
    a.before c = true := by
  simp only [before, decide_eq_true_eq] at *
  omega

end DateTime

end SearchQuery
