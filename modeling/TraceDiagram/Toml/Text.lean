import TraceDiagram.Decimal.Read
import TraceDiagram.Text.Scan

/-! # Reading the texts of configuration files

A text stands between quotes on one line, or between three quotes on several. Between double quotes a
backslash begins an escape; between single quotes it is a backslash.

* **`quotedText`** reads a text of any of the four kinds, **`key`** a key.
* **`gap`**, **`newline`**, **`comment`** read what has no meaning.
-/

namespace TraceDiagram.Toml

open TraceDiagram.Text TraceDiagram.Text.Scan

/-- Whether `c` is a blank within a line. -/
def isGap (c : Char) : Bool := c = ' ' || c = '\t'

/-- Whether `c` may stand in a text or comment as it is: no control character is, except the tab. -/
def isPlain (c : Char) : Bool := c = '\t' || (0x20 ≤ c.toNat && c.toNat ≠ 0x7f)

/-- Reads blanks within a line, if any. -/
def gap : Scan Unit := fun cs => some ((), cs.dropWhile isGap)

/-- Reads the end of a line. -/
def newline : Scan Unit := exactly "\n" <|> exactly "\r\n"

/-- Reads a comment up to the end of its line. -/
def comment : Scan Unit := char (· = '#') *> charsWhile isPlain *> pure ()

/-! ## Escapes -/

/-- The letters behind a backslash, with what they stand for. -/
def escapeLetters : List (Char × Char) := [
  ('b', '\x08'), ('t', '\t'), ('n', '\n'), ('f', '\x0c'), ('r', '\r'), ('"', '"'), ('\\', '\\')]

/-- Reads a letter that stands for a character. -/
def escapeLetter : Scan Char
  | [] => none
  | c :: cs => (escapeLetters.lookup c).map (·, cs)

/-- Whether `c` is a hexadecimal digit. -/
def isHexDigit (c : Char) : Bool :=
  c.isDigit || ('a' ≤ c && c ≤ 'f') || ('A' ≤ c && c ≤ 'F')

/-- Reads the code point of a character as hexadecimal digits. -/
def codePoint (digits : Nat) : Scan Char := do
  let ds ← count (char isHexDigit) digits
  let n := (digitsValue? 16 ds).getD 0
  if n.isValidChar then return Char.ofNat n else failure

/-- Reads an escape that stands for a character. -/
def escape : Scan Char :=
  char (· = '\\') *> firstOf [escapeLetter, exactly "u" *> codePoint 4, exactly "U" *> codePoint 8]

/-! ## Texts on one line -/

/-- Reads a character between double quotes. -/
def basicChar : Scan Char := char (fun c => isPlain c && c ≠ '"' && c ≠ '\\') <|> escape

/-- Reads a text between double quotes. -/
def basicText : Scan String := do
  let _ ← char (· = '"')
  let cs ← many basicChar
  let _ ← char (· = '"')
  return String.ofList cs

/-- Reads a text between single quotes. -/
def literalText : Scan String := do
  let _ ← char (· = '\'')
  let cs ← charsWhile fun c => isPlain c && c ≠ '\''
  let _ ← char (· = '\'')
  return String.ofList cs

/-! ## Texts on several lines -/

/-- Reads a quote that belongs to the text. Three quotes end the text, and up to two more may stand in front of
them. -/
def innerQuote (quote : Char) : Scan Char := fun cs =>
  let run := (cs.takeWhile (· = quote)).length
  if run = 3 ∨ 5 < run then none else char (· = quote) cs

/-- Reads a backslash at the end of a line, and the blanks and line ends behind it. -/
def lineJoin : Scan Unit := do
  let _ ← char (· = '\\')
  gap
  newline
  let _ ← many (newline <|> char isGap *> pure ())

/-- Reads a text between three quotes, piece by piece. A line end right behind the first quotes is not part of
it. -/
def longText (quote : Char) (piece : Scan (List Char)) : Scan String := do
  let _ ← count (char (· = quote)) 3
  let _ ← optional newline
  let pieces ← many (firstOf [piece, newline *> pure ['\n'], (fun c => [c]) <$> innerQuote quote])
  let _ ← count (char (· = quote)) 3
  return String.ofList pieces.flatten

/-- Reads a piece of a text between three double quotes. -/
def longBasicPiece : Scan (List Char) := firstOf [
  (fun c => [c]) <$> char fun c => isPlain c && c ≠ '"' && c ≠ '\\',
  lineJoin *> pure [],
  (fun c => [c]) <$> escape]

/-- Reads a piece of a text between three single quotes. -/
def longLiteralPiece : Scan (List Char) :=
  (fun c => [c]) <$> char fun c => isPlain c && c ≠ '\''

/-- Reads a text. -/
def quotedText : Scan String := firstOf [
  longText '"' longBasicPiece, basicText, longText '\'' longLiteralPiece, literalText]

/-! ## Keys -/

/-- Whether `c` may stand in a key without quotes. -/
def isKeyChar (c : Char) : Bool := c.isAlphanum || c = '_' || c = '-'

/-- Reads a key without quotes. -/
def bareKey : Scan String := do
  let c ← char isKeyChar
  let cs ← charsWhile isKeyChar
  return String.ofList (c :: cs)

/-- Reads a key. -/
def key : Scan String := firstOf [basicText, literalText, bareKey]

end TraceDiagram.Toml
