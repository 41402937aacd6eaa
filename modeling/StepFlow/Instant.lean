import StepFlow.Number.Power
import StepFlow.Unicode.Blank

/-!
# Points in time

An **instant** is a day of the proleptic Gregorian calendar, a second of that
day in UTC and a nanosecond of that second.  A leap second is written as second
60; it is the second before it with a thousand million nanoseconds more.

Instants are written in the form of RFC 3339, as in `2024-01-02T03:04:05.250Z`,
with as many groups of three fractional digits as are needed.  Reading is more
lenient: blanks may stand between the parts, the date may be separated from the
time by a blank, and the offset from UTC may be any below a day.
-/

namespace StepFlow

/-- **A point in time.** -/
structure Instant where
  /-- Days since the first of January 1970. -/
  day : Int
  /-- Seconds since midnight. -/
  second : Nat
  nanosecond : Nat
deriving Repr, DecidableEq

namespace Instant

/-- The instant `ms` milliseconds after the beginning of 1970. -/
def ofMilliseconds (ms : Nat) : Instant :=
  { day := ms / 86400000
    second := ms % 86400000 / 1000
    nanosecond := ms % 1000 * 1000000 }

/-! ### The calendar -/

/-- A date. -/
structure Date where
  year : Int
  month : Nat
  day : Nat
deriving Repr, DecidableEq

/-- Is a year a leap year? -/
def isLeap (year : Int) : Bool := year % 4 = 0 && (year % 100 ≠ 0 || year % 400 = 0)

/-- How many days a month has. -/
def daysInMonth (year : Int) (month : Nat) : Nat :=
  if month = 2 then (if isLeap year then 29 else 28)
  else if month = 4 ∨ month = 6 ∨ month = 9 ∨ month = 11 then 30
  else 31

/-- Days from the first of January 1970 to a date.  Years are counted from
March, so that the leap day ends a year. -/
def Date.toDay (d : Date) : Int :=
  let year := if d.month ≤ 2 then d.year - 1 else d.year
  let era := year.fdiv 400
  let yearOfEra := (year - era * 400).toNat
  let monthFromMarch := (d.month + 9) % 12
  let dayOfYear := (153 * monthFromMarch + 2) / 5 + d.day - 1
  let dayOfEra := yearOfEra * 365 + yearOfEra / 4 - yearOfEra / 100 + dayOfYear
  era * 146097 + dayOfEra - 719468

/-- The date of a day. -/
def Date.ofDay (day : Int) : Date :=
  let shifted := day + 719468
  let era := shifted.fdiv 146097
  let dayOfEra := (shifted - era * 146097).toNat
  let yearOfEra := (dayOfEra - dayOfEra / 1460 + dayOfEra / 36524 - dayOfEra / 146096) / 365
  let dayOfYear := dayOfEra - (365 * yearOfEra + yearOfEra / 4 - yearOfEra / 100)
  let monthFromMarch := (5 * dayOfYear + 2) / 153
  let month := if monthFromMarch < 10 then monthFromMarch + 3 else monthFromMarch - 9
  { year := yearOfEra + era * 400 + (if month ≤ 2 then 1 else 0)
    month
    day := dayOfYear - (153 * monthFromMarch + 2) / 5 + 1 }

/-- The first and the last year that dates may have. -/
def yearRange : Int × Int := (-262143, 262142)

/-! ### Writing -/

/-- A number in at least `width` digits. -/
def padded (width n : Nat) : List Char :=
  let ds := Nat.toDigits 10 n
  List.replicate (width - ds.length) '0' ++ ds

/-- A year: four digits, with a sign outside of the years 0 to 9999. -/
def yearText (year : Int) : List Char :=
  if 0 ≤ year ∧ year ≤ 9999 then padded 4 year.toNat
  else (if year < 0 then '-' else '+') :: padded 4 year.natAbs

/-- The fraction of a second in groups of three digits. -/
def fractionText (nanosecond : Nat) : List Char :=
  if nanosecond = 0 then []
  else if nanosecond % 1000000 = 0 then '.' :: padded 3 (nanosecond / 1000000)
  else if nanosecond % 1000 = 0 then '.' :: padded 6 (nanosecond / 1000)
  else '.' :: padded 9 nanosecond

/-- **The text of an instant.** -/
def text (t : Instant) : String :=
  let date := Date.ofDay t.day
  let leap := t.nanosecond / 1000000000
  String.ofList <|
    yearText date.year ++ '-' :: (padded 2 date.month ++ '-' :: (padded 2 date.day
      ++ 'T' :: (padded 2 (t.second / 3600) ++ ':' :: (padded 2 (t.second / 60 % 60)
      ++ ':' :: (padded 2 (t.second % 60 + leap)
      ++ (fractionText (t.nanosecond % 1000000000) ++ ['Z']))))))

/-! ### Reading -/

/-- Passes over blanks. -/
def skipBlanks (cs : List Char) : List Char := cs.dropWhile Unicode.isBlank

/-- A character that must be there, after blanks. -/
def expect (c : Char) (cs : List Char) : Option (List Char) :=
  match skipBlanks cs with
  | d :: rest => if d = c then some rest else none
  | [] => none

/-- The number that decimal digits denote. -/
def numberOf (ds : List Char) : Nat := ds.foldl (fun n d => 10 * n + (d.toNat - 48)) 0

/-- A number of at most `width` digits. -/
def digits? (width : Nat) (cs : List Char) : Option (Nat × List Char) :=
  let ds := (cs.take width).takeWhile Char.isDigit
  if ds.isEmpty then none else some (numberOf ds, cs.drop ds.length)

/-- A number of at most two digits and at most `limit`, after blanks. -/
def part? (limit : Nat) (cs : List Char) : Option (Nat × List Char) := do
  let (n, rest) ← digits? 2 (skipBlanks cs)
  if n ≤ limit then some (n, rest) else none

/-- A year: four digits, or as many as there are after a sign. -/
def year? (cs : List Char) : Option (Int × List Char) :=
  match skipBlanks cs with
  | '-' :: rest => (digits? rest.length rest).map fun r => (-r.1, r.2)
  | '+' :: rest => (digits? rest.length rest).map fun r => (r.1, r.2)
  | rest => (digits? 4 rest).map fun r => (r.1, r.2)

/-- The nanoseconds of a fraction, if there is one; digits after the ninth do not
count. -/
def fraction? (cs : List Char) : Option (Nat × List Char) :=
  match cs with
  | '.' :: rest =>
    let ds := rest.takeWhile Char.isDigit
    if ds.isEmpty then none
    else
      let kept := ds.take 9
      some (numberOf kept * tenTo (9 - kept.length), rest.drop ds.length)
  | _ => some (0, cs)

/-- The hours and minutes of an offset in seconds, after its sign. -/
def offsetSeconds? (cs : List Char) : Option (Nat × List Char) :=
  match cs with
  | a :: b :: rest =>
    match rest.dropWhile fun c => c = ':' || Unicode.isBlank c with
    | c :: d :: rest =>
      if [a, b, c, d].all Char.isDigit ∧ c ≤ '5' then
        some (numberOf [a, b] * 3600 + numberOf [c, d] * 60, rest)
      else none
    | _ => none
  | _ => none

/-- The offset from UTC in seconds: `Z`, `UTC`, or a sign, hours and minutes. -/
def offset? (cs : List Char) : Option (Int × List Char) :=
  match skipBlanks cs with
  | 'Z' :: rest => some (0, rest)
  | 'z' :: rest => some (0, rest)
  | '+' :: rest => (offsetSeconds? rest).map fun r => (r.1, r.2)
  | '-' :: rest => (offsetSeconds? rest).map fun r => (-r.1, r.2)
  | '−' :: rest => (offsetSeconds? rest).map fun r => (-r.1, r.2)
  | u :: t :: c :: rest =>
    if [u, t, c].map Char.toLower = ['u', 't', 'c'] then some (0, rest) else none
  | _ => none

/-- A date within the range of years. -/
def Date.isValid (d : Date) : Bool :=
  decide (yearRange.1 ≤ d.year ∧ d.year ≤ yearRange.2 ∧ 1 ≤ d.month ∧ d.month ≤ 12 ∧ 1 ≤ d.day
    ∧ d.day ≤ daysInMonth d.year d.month)

/-- The instant of a date and a time of day that is `offset` seconds ahead of UTC. -/
def ofLocal? (date : Date) (hour minute second nanosecond : Nat) (offset : Int) : Option Instant :=
  let leap := if second = 60 then 1 else 0
  let local_ := date.toDay * 86400 + (hour * 3600 + minute * 60 + (second - leap) : Nat)
  let utc := local_ - offset
  let day := utc.fdiv 86400
  let year := (Date.ofDay day).year
  if date.isValid ∧ -86400 < offset ∧ offset < 86400 ∧ yearRange.1 ≤ year ∧ year ≤ yearRange.2 then
    some ⟨day, (utc.fmod 86400).toNat, nanosecond + leap * 1000000000⟩
  else none

/-- **Reads an instant.** -/
def read? (s : String) : Option Instant := do
  let (year, cs) ← year? s.toList
  let cs ← expect '-' cs
  let (month, cs) ← part? 12 cs
  let cs ← expect '-' cs
  let (day, cs) ← part? 31 cs
  let cs ← match cs with
    | c :: rest => if c = 'T' ∨ c = 't' ∨ c = ' ' then some rest else none
    | [] => none
  let (hour, cs) ← part? 23 cs
  let cs ← expect ':' cs
  let (minute, cs) ← part? 59 cs
  let cs ← expect ':' cs
  let (second, cs) ← part? 60 cs
  let (nanosecond, cs) ← fraction? cs
  let (offset, cs) ← offset? cs
  if (skipBlanks cs).isEmpty then ofLocal? ⟨year, month, day⟩ hour minute second nanosecond offset
  else none

end Instant

end StepFlow
