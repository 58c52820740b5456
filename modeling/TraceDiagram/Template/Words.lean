import TraceDiagram.Template.Syntax
import TraceDiagram.Text.Scan

/-! # The words of templates

* **`lexeme`** passes over blanks and then reads, **`sign`** reads given characters so, and **`separated`**
  reads one or more times with a sign in between.
* **`identifier`**, **`dottedName`**, **`quotedText`**, **`wholeNumber`**, **`fraction`** read words.
-/

namespace TraceDiagram.Template.Words

open Text Text.Scan

/-- Whether `c` is a blank between the words of a tag. -/
def isGap (c : Char) : Bool := c = ' ' || c = '\t' || c = '\r' || c = '\n'

/-- Reads blanks, if any. -/
def gap : Scan Unit := fun cs => some ((), cs.dropWhile isGap)

/-- Reads at least one blank. -/
def someGap : Scan Unit := char isGap *> gap

/-- Passes over blanks and reads. -/
def lexeme {α : Type} (p : Scan α) : Scan α := gap *> p

/-- Passes over blanks and reads the given characters. -/
def sign (word : String) : Scan Unit := lexeme (exactly word)

/-- Reads with a step one or more times, with a sign in between. -/
def separated {α : Type} (mark : String) (p : Scan α) : Scan (List α) := do
  let first ← lexeme p
  let rest ← many (sign mark *> lexeme p)
  return first :: rest

/-! ## Words -/

/-- Whether `c` may start a name. -/
def isNameStart (c : Char) : Bool := c.isAlpha || c = '_'

/-- Whether `c` may stand in a name. -/
def isNameChar (c : Char) : Bool := c.isAlphanum || c = '_'

/-- The characters of a name. -/
def nameChars : Scan (List Char) := do
  let c ← char isNameStart
  let cs ← charsWhile isNameChar
  return c :: cs

/-- A name. -/
def identifier : Scan String := String.ofList <$> nameChars

/-- A point and the part of a name behind it. -/
def dottedPart : Scan (List Char) := do
  let dot ← char (· = '.')
  let c ← char isNameChar
  let cs ← charsWhile isNameChar
  return dot :: c :: cs

/-- A name and the parts behind points. -/
def dottedName : Scan (List Char) := do
  let start ← nameChars
  let parts ← many dottedPart
  return start ++ parts.flatten

/-- A text between two quotes of a kind. -/
def between (quote : Char) : Scan (List Char) := do
  let _ ← char (· = quote)
  let cs ← charsWhile (· ≠ quote)
  let _ ← char (· = quote)
  return cs

/-- A text in quotes, with its quote. -/
def quoted : Scan (Char × List Char) :=
  firstOf (['"', '\'', '`'].map fun quote => (Prod.mk quote) <$> between quote)

/-- The text in quotes. -/
def quotedText : Scan String := (fun p => String.ofList p.2) <$> quoted

/-- The digits of a whole number: none but zero itself starts with a zero. -/
def digits : Scan (List Char) :=
  (do let c ← char (· = '0'); return [c])
  <|> (do
    let c ← char fun c => c.isDigit && c ≠ '0'
    let cs ← charsWhile Char.isDigit
    return c :: cs)

/-- A minus sign, if there is one. -/
def minus : Scan Bool := present (exactly "-")

/-- The written form of a whole number. -/
def wholeText : Scan (Bool × List Char) := do
  let negative ← minus
  let ds ← digits
  return (negative, ds)

/-- A whole number of 64 bits. -/
def wholeNumber : Scan Int := do
  let (negative, ds) ← wholeText
  let n : Int := if negative then -Int.ofNat (natOfDigits ds) else Int.ofNat (natOfDigits ds)
  if Int64.minValue.toInt ≤ n ∧ n ≤ Int64.maxValue.toInt then return n else failure

/-- A number with a fractional part. -/
def fraction : Scan Float := do
  let (negative, whole) ← wholeText
  let _ ← char (· = '.')
  let c ← char Char.isDigit
  let cs ← charsWhile Char.isDigit
  let x := Float.ofScientific (natOfDigits (whole ++ c :: cs)) true (cs.length + 1)
  return if negative then -x else x

end TraceDiagram.Template.Words
