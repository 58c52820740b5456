import TraceDiagram.Text.Calendar
import TraceDiagram.Toml.Text

/-! # Reading the numbers and times of configuration files

* **`wholeNumber`** a whole number of 64 bits, **`fraction`** a double.
* **`timePoint`** a day, a time of day or both, in the form in which it is written again.
-/

namespace TraceDiagram.Toml

open TraceDiagram.Text TraceDiagram.Text.Scan

/-! ## Numbers -/

/-- Reads digits, also with single low lines between them. -/
def digitRun (isDigit : Char → Bool) : Scan (List Char) := do
  let d ← char isDigit
  let ds ← many (char isDigit <|> char (· = '_') *> char isDigit)
  return d :: ds

/-- Reads a plus or minus sign, if there is one. -/
def plusMinus : Scan (List Char) := (fun c => [c]) <$> char (fun c => c = '+' || c = '-') <|> pure []

/-- Reads digits that do not begin with a needless zero. -/
def leadingDigits : Scan (List Char) := do
  let d ← char Char.isDigit
  if d = '0' then return [d]
  let ds ← many (char Char.isDigit <|> char (· = '_') *> char Char.isDigit)
  return d :: ds

/-- Reads a whole number in base ten, with its sign. -/
def decimalText : Scan (List Char) := do
  let s ← plusMinus
  let ds ← leadingDigits
  return s ++ ds

/-- Gives a result only if there is one. -/
def yielding {α : Type} : Option α → Scan α
  | some a => pure a
  | none => failure

/-- Reads a whole number in a base that a zero and a letter announce. -/
def announced (mark : String) (base : Nat) (isDigit : Char → Bool) : Scan Int := do
  exactly mark
  let ds ← digitRun isDigit
  yielding (readInt? base ds)

/-- Reads a whole number. -/
def wholeNumber : Scan Int := firstOf [
  announced "0x" 16 isHexDigit, announced "0o" 8 fun c => '0' ≤ c && c ≤ '7',
  announced "0b" 2 fun c => c = '0' || c = '1',
  do yielding (readInt? 10 (← decimalText))]

/-- Reads an exponent. -/
def exponent : Scan (List Char) := do
  let e ← char fun c => c = 'e' || c = 'E'
  let s ← plusMinus
  let ds ← digitRun Char.isDigit
  return e :: s ++ ds

/-- Reads a point and the digits behind it. -/
def pointDigits : Scan (List Char) := do
  let point ← char (· = '.')
  let ds ← digitRun Char.isDigit
  return point :: ds

/-- Reads a double with a point, an exponent or both. One that is too large for a double is none. -/
def writtenFraction : Scan Float := do
  let whole ← decimalText
  let tail ← exponent <|> do
    let part ← pointDigits
    let power ← exponent <|> pure []
    return part ++ power
  let x ← yielding (readFloat? (whole ++ tail))
  if x.isInf && 0.0 < x then failure else return x

/-- Reads a double that is a word: infinity or no number. -/
def wordFraction : Scan Float := do
  let s ← plusMinus
  let x : Float ← exactly "inf" *> pure (1.0 / 0.0) <|> exactly "nan" *> pure (0.0 / 0.0)
  return if s = ['-'] then -x else x

/-- Reads a double. -/
def fraction : Scan Float := writtenFraction <|> wordFraction

/-! ## Times -/

/-- Reads digits whose value lies between two bounds. -/
def within (digits low high : Nat) : Scan (List Char) := do
  let ds ← count (char Char.isDigit) digits
  if low ≤ natOfDigits ds ∧ natOfDigits ds ≤ high then return ds else failure

/-- Reads a day of the calendar. -/
def calendarDay : Scan (List Char) := do
  let year ← count (char Char.isDigit) 4
  exactly "-"
  let month ← within 2 1 12
  exactly "-"
  let day ← within 2 1 (daysInMonth (Int.ofNat (natOfDigits year)) (natOfDigits month))
  return year ++ '-' :: month ++ '-' :: day

/-- Digits without the zeros at the end. -/
def dropEndZeros (ds : List Char) : List Char := (ds.reverse.dropWhile (· = '0')).reverse

/-- Reads a fraction of a second; what is less than a billionth is dropped. -/
def secondFraction : Scan (List Char) := do
  exactly "."
  let d ← char Char.isDigit
  let ds ← charsWhile Char.isDigit
  let kept := dropEndZeros ((d :: ds).take 9)
  return if kept.isEmpty then [] else '.' :: kept

/-- Reads a time of day. -/
def clockTime : Scan (List Char) := do
  let hour ← within 2 0 23
  exactly ":"
  let minute ← within 2 0 59
  exactly ":"
  let second ← within 2 0 60
  let part ← secondFraction <|> pure []
  return hour ++ ':' :: minute ++ ':' :: second ++ part

/-- Reads a distance from world time. -/
def zone : Scan (List Char) := firstOf [
  char (fun c => c = 'Z' || c = 'z') *> pure ['Z'],
  do
    let s ← char fun c => c = '+' || c = '-'
    let hour ← within 2 0 23
    exactly ":"
    let minute ← within 2 0 59
    let s := if natOfDigits (hour ++ minute) = 0 then '+' else s
    return s :: hour ++ ':' :: minute]

/-- Reads a time of day behind a day. -/
def dayClock : Scan (List Char) := do
  let _ ← char fun c => c = 'T' || c = 't' || c = ' '
  let clock ← clockTime
  let z ← zone <|> pure []
  return 'T' :: clock ++ z

/-- Reads a day, a time of day or both. -/
def timePoint : Scan String := String.ofList <$> firstOf [
  do
    let day ← calendarDay
    let clock ← dayClock <|> pure []
    return day ++ clock,
  clockTime]

end TraceDiagram.Toml
