/-! # Dates

* **`Moment`** a day of the calendar and a time of that day.
* **`Moment.ofSeconds`** counts from the start of 1970.
* **`readDay?`** and **`readMoment?`** read a date, and a date with a time.
* **`Moment.format?`** writes a moment as a pattern with percent signs asks.
-/

namespace TraceDiagram.Text

/-- A day of the calendar and a time of that day. -/
structure Moment where
  /-- Days since the start of 1970. -/
  day : Int
  /-- Seconds since the start of the day. -/
  second : Nat
  deriving DecidableEq, Repr

/-- A day by year, month and day of the month. -/
structure CivilDay where
  /-- The year. -/
  year : Int
  /-- The month, 1 to 12. -/
  month : Nat
  /-- The day of the month, from 1. -/
  day : Nat
  deriving DecidableEq, Repr

/-- Whether a year has a leap day. -/
def isLeapYear (year : Int) : Bool :=
  year.emod 4 = 0 && (year.emod 100 ≠ 0 || year.emod 400 = 0)

/-- The number of days of a month. -/
def daysInMonth (year : Int) (month : Nat) : Nat :=
  if month = 2 then (if isLeapYear year then 29 else 28)
  else if month = 4 || month = 6 || month = 9 || month = 11 then 30 else 31

/-- Days from the start of 1970 to a day. Years are counted from March, so that the leap day comes last. -/
def CivilDay.toDays (d : CivilDay) : Int :=
  let year := if d.month ≤ 2 then d.year - 1 else d.year
  let era := year.fdiv 400
  let yearOfEra := year - era * 400
  let monthFromMarch : Int := (d.month + 9) % 12
  let dayOfYear := (153 * monthFromMarch + 2) / 5 + d.day - 1
  let dayOfEra := yearOfEra * 365 + yearOfEra / 4 - yearOfEra / 100 + dayOfYear
  era * 146097 + dayOfEra - 719468

/-- The day that lies some days after the start of 1970. -/
def CivilDay.ofDays (days : Int) : CivilDay :=
  let shifted := days + 719468
  let era := shifted.fdiv 146097
  let dayOfEra := shifted - era * 146097
  let yearOfEra := (dayOfEra - dayOfEra / 1460 + dayOfEra / 36524 - dayOfEra / 146096) / 365
  let dayOfYear := dayOfEra - (365 * yearOfEra + yearOfEra / 4 - yearOfEra / 100)
  let monthFromMarch := (5 * dayOfYear + 2) / 153
  let day := dayOfYear - (153 * monthFromMarch + 2) / 5 + 1
  let month := if monthFromMarch < 10 then monthFromMarch + 3 else monthFromMarch - 9
  let year := yearOfEra + era * 400
  ⟨if month ≤ 2 then year + 1 else year, month.toNat, day.toNat⟩

namespace Moment

/-- The moment some seconds after the start of 1970. -/
def ofSeconds (n : Int) : Moment := ⟨n.fdiv 86400, (n.fmod 86400).toNat⟩

/-- The day of the calendar. -/
def civil (m : Moment) : CivilDay := CivilDay.ofDays m.day

/-- The day of the week, Sunday being 0. -/
def weekday (m : Moment) : Nat := ((m.day + 4).fmod 7).toNat

/-- The day of the year, from 1. -/
def dayOfYear (m : Moment) : Nat :=
  (m.day - CivilDay.toDays ⟨m.civil.year, 1, 1⟩ + 1).toNat

end Moment

/-- The names of the months. -/
def monthNames : List String := [
  "January", "February", "March", "April", "May", "June", "July", "August", "September", "October",
  "November", "December"]

/-- The names of the days of the week. -/
def dayNames : List String := [
  "Sunday", "Monday", "Tuesday", "Wednesday", "Thursday", "Friday", "Saturday"]

/-- A number with at least `width` places, filled up with `fill` in front. -/
def padded (fill : Char) (width n : Nat) : List Char :=
  let ds := Nat.toDigits 10 n
  List.replicate (width - ds.length) fill ++ ds

/-- A year with at least four places. -/
def yearText (year : Int) : List Char :=
  if year < 0 then '-' :: padded '0' 4 year.natAbs
  else if 9999 < year then '+' :: padded '0' 4 year.toNat
  else padded '0' 4 year.toNat

namespace Moment

/-- The hour on a clock of twelve. -/
def clockHour (m : Moment) : Nat := (m.second / 3600 + 11) % 12 + 1

/-- What one letter behind a percent sign stands for, if it stands for anything. -/
def field? (m : Moment) (letter : Char) : Option (List Char) :=
  let day := m.civil
  let hour := m.second / 3600
  let minute := m.second / 60 % 60
  let date := yearText day.year ++ '-' :: padded '0' 2 day.month ++ '-' :: padded '0' 2 day.day
  let hourMinute := padded '0' 2 hour ++ ':' :: padded '0' 2 minute
  let time := hourMinute ++ ':' :: padded '0' 2 (m.second % 60)
  let monthName := (monthNames.getD (day.month - 1) "").toList
  let dayName := (dayNames.getD m.weekday "").toList
  let half := if hour < 12 then ['A', 'M'] else ['P', 'M']
  match letter with
  | 'Y' => some (yearText day.year)
  | 'C' => some (padded '0' 2 (day.year.fdiv 100).toNat)
  | 'y' => some (padded '0' 2 (day.year.fmod 100).toNat)
  | 'm' => some (padded '0' 2 day.month)
  | 'b' | 'h' => some (monthName.take 3)
  | 'B' => some monthName
  | 'd' => some (padded '0' 2 day.day)
  | 'e' => some (padded ' ' 2 day.day)
  | 'a' => some (dayName.take 3)
  | 'A' => some dayName
  | 'w' => some (padded '0' 1 m.weekday)
  | 'u' => some (padded '0' 1 ((m.weekday + 6) % 7 + 1))
  | 'U' => some (padded '0' 2 ((m.dayOfYear + 6 - m.weekday) / 7))
  | 'W' => some (padded '0' 2 ((m.dayOfYear + 6 - (m.weekday + 6) % 7) / 7))
  | 'j' => some (padded '0' 3 m.dayOfYear)
  | 'D' | 'x' =>
    some (padded '0' 2 day.month ++ '/' :: padded '0' 2 day.day ++ '/' ::
      padded '0' 2 (day.year.fmod 100).toNat)
  | 'F' => some date
  | 'v' => some (padded ' ' 2 day.day ++ '-' :: monthName.take 3 ++ '-' :: yearText day.year)
  | 'H' => some (padded '0' 2 hour)
  | 'k' => some (padded ' ' 2 hour)
  | 'I' => some (padded '0' 2 m.clockHour)
  | 'l' => some (padded ' ' 2 m.clockHour)
  | 'P' => some (half.map Char.toLower)
  | 'p' => some half
  | 'M' => some (padded '0' 2 minute)
  | 'S' => some (padded '0' 2 (m.second % 60))
  | 'R' => some hourMinute
  | 'T' | 'X' => some time
  | 'r' =>
    some (padded '0' 2 m.clockHour ++ ':' :: padded '0' 2 minute ++ ':' ::
      padded '0' 2 (m.second % 60) ++ ' ' :: half)
  | 'c' =>
    some (dayName.take 3 ++ ' ' :: monthName.take 3 ++ ' ' :: padded ' ' 2 day.day ++ ' ' :: time
      ++ ' ' :: yearText day.year)
  | 's' => some (toString (m.day * 86400 + m.second)).toList
  | 't' => some ['\t']
  | 'n' => some ['\n']
  | '%' => some ['%']
  | _ => none

/-- The moment as a pattern asks, unless the pattern has a percent sign with no meaning. -/
def format? (m : Moment) : List Char → Option (List Char)
  | [] => some []
  | ['%'] => none
  | '%' :: letter :: rest => do
    let field ← m.field? letter
    let more ← m.format? rest
    return field ++ more
  | c :: rest => (m.format? rest).map (c :: ·)

end Moment

/-- Some digits in front, as a number, and the rest. -/
def takeDigits? (most : Nat) (cs : List Char) : Option (Nat × List Char) :=
  let ds := (cs.take most).takeWhile Char.isDigit
  if ds.isEmpty then none
  else some (ds.foldl (fun n c => 10 * n + (c.toNat - 48)) 0, cs.drop ds.length)

/-- The rest behind a given character. -/
def skip? (c : Char) : List Char → Option (List Char)
  | [] => none
  | d :: cs => if d = c then some cs else none

/-- Reads a day in front of a text: year, month and day with dashes between. -/
def readDayPart? (cs : List Char) : Option (CivilDay × List Char) := do
  let (year, cs) ← takeDigits? 4 cs
  let cs ← skip? '-' cs
  let (month, cs) ← takeDigits? 2 cs
  let cs ← skip? '-' cs
  let (day, cs) ← takeDigits? 2 cs
  if 1 ≤ month ∧ month ≤ 12 ∧ 1 ≤ day ∧ day ≤ daysInMonth year month then
    some (⟨year, month, day⟩, cs)
  else none

/-- Reads a day. -/
def readDay? (cs : List Char) : Option Moment := do
  let (day, rest) ← readDayPart? cs
  if rest.isEmpty then some ⟨day.toDays, 0⟩ else none

/-- Reads a time of day in front of a text: hours, minutes and seconds, whose fraction is passed over. -/
def readClock? (cs : List Char) : Option (Nat × List Char) := do
  let (hour, cs) ← takeDigits? 2 cs
  let cs ← skip? ':' cs
  let (minute, cs) ← takeDigits? 2 cs
  let cs ← skip? ':' cs
  let (second, cs) ← takeDigits? 2 cs
  let cs := match cs with
    | '.' :: rest => rest.dropWhile Char.isDigit
    | _ => cs
  if hour < 24 ∧ minute < 60 ∧ second < 60 then some (hour * 3600 + minute * 60 + second, cs)
  else none

/-- Whether a text is a distance from world time, or nothing. -/
def isZone (cs : List Char) : Bool :=
  match cs with
  | [] => true
  | ['Z'] | ['z'] => true
  | [s, a, b, ':', c, d] => (s = '+' || s = '-') && [a, b, c, d].all Char.isDigit
  | _ => false

/-- Reads a day and a time of day, with a letter between and a distance from world time behind or none. -/
def readMoment? (cs : List Char) : Option Moment := do
  let (day, cs) ← readDayPart? cs
  let cs ← skip? 'T' cs
  let (second, cs) ← readClock? cs
  if isZone cs then some ⟨day.toDays, second⟩ else none

end TraceDiagram.Text
