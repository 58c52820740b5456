import TraceDiagram.Toml.Number
import TraceDiagram.Toml.Tree

/-! # Reading configuration files

* **`Toml.value`** reads a value, **`Toml.Line`** is a line with a meaning.
* **`Toml.build`** makes tables of lines.
* **`Toml.read?`** reads a whole file.
-/

namespace TraceDiagram.Toml

open TraceDiagram.Text TraceDiagram.Text.Scan

/-- How deep values may be nested, and how many keys may stand in a row. -/
def nestingLimit : Nat := 79

/-- Reads a key behind keys with dots in between. -/
def keyPath : Scan (List String × String) := do
  let keys ← sepBy (exactly ".") (gap *> key <* gap)
  if keys.length ≤ nestingLimit then return (keys.dropLast, keys.getLastD "") else failure

/-! ## Values -/

/-- Reads what may stand between the values of a list. -/
def filler : Scan Unit := do
  let _ ← many (firstOf [char isGap *> pure (), newline, comment *> newline])

/-- Reads a list. -/
def listOf (item : Scan Toml) : Scan (List Toml) := do
  let _ ← char (· = '[')
  let items ← (sepBy (exactly ",") (filler *> item <* filler) <* optional (exactly ",")) <|> pure []
  filler
  let _ ← char (· = ']')
  return items

/-- Reads a key and a value. -/
def keyed (item : Scan Toml) : Scan (List String × String × Toml) := do
  let (path, key) ← keyPath
  exactly "="
  gap
  let v ← item
  return (path, key, v)

/-- Reads a table between braces. -/
def bracedTable (item : Scan Toml) : Scan Toml := do
  let _ ← char (· = '{')
  let settings ← sepBy (exactly ",") (keyed item <* gap) <|> pure []
  gap
  let _ ← char (· = '}')
  yielding (inlineTable settings)

/-- Reads a value that holds no others. -/
def scalar : Scan Toml := firstOf [
  .text <$> quotedText, .time <$> timePoint, .float <$> fraction, .int <$> wholeNumber,
  exactly "true" *> pure (.flag true), exactly "false" *> pure (.flag false)]

/-- Reads a value in which values are nested up to a depth. -/
def value : Nat → Scan Toml
  | 0 => scalar
  | depth + 1 => firstOf [scalar, .list <$> listOf (value depth), bracedTable (value depth)]

/-! ## Lines -/

/-- A line with a meaning. -/
inductive Line where
  /-- The heading of a table. -/
  | heading (path : List String) (key : String)
  /-- The heading of another table in a list. -/
  | itemHeading (path : List String) (key : String)
  /-- A key and its value. -/
  | setting (path : List String) (key : String) (value : Toml)

/-- Reads the heading of a table. -/
def heading : Scan Line := do
  exactly "["
  let (path, key) ← keyPath
  exactly "]"
  return .heading path key

/-- Reads the heading of another table in a list. -/
def itemHeading : Scan Line := do
  exactly "[["
  let (path, key) ← keyPath
  exactly "]]"
  return .itemHeading path key

/-- Reads a key and its value. -/
def setting : Scan Line := do
  let (path, key, v) ← keyed (value nestingLimit)
  return .setting path key v

/-- Reads a line. -/
def line : Scan (Option Line) := do
  gap
  let l ← optional (firstOf [itemHeading, heading, setting])
  gap
  let _ ← optional comment
  newline <|> atEnd
  return l

/-- Reads all lines. -/
def allLines : Scan (List Line) := do
  let ls ← many (notAtEnd *> line)
  atEnd
  return ls.filterMap id

/-! ## Files -/

/-- Makes tables of lines. Settings go to the table with the last heading. -/
def build : List Line → List String → Branches → Option Branches
  | [], _, branches => some branches
  | .heading path key :: rest, _, branches =>
    (openTable path key branches).bind (build rest (path ++ [key]))
  | .itemHeading path key :: rest, _, branches =>
    (openItem path key branches).bind (build rest (path ++ [key]))
  | .setting path key v :: rest, here, branches =>
    (atTable .implied (define path key v) here .headed branches).bind (build rest here)

/-- The text without the mark that tells the order of bytes. -/
def withoutByteMark : List Char → List Char
  | c :: cs => if c = '\uFEFF' then cs else c :: cs
  | [] => []

/-- Reads a whole file: the values by key. -/
def read? (text : String) : Option (List (String × Toml)) := do
  let (lines, _) ← allLines (withoutByteMark text.toList)
  let branches ← build lines [] []
  return pairsOf branches

end TraceDiagram.Toml
