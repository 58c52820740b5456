import TraceDiagram.Decimal.Shortest
import TraceDiagram.Text.Split
import TraceDiagram.Toml.Text
import TraceDiagram.Toml.Value

/-! # Writing configuration files

A text is written with the quotes that need the fewest escapes. Every table has its own heading, unless all it
holds are tables.

* **`QuoteStyle`** the four kinds of quotes; **`QuoteStyle.ofText`** chooses one.
* **`writtenText`**, **`writtenKey`**, **`written`** the forms of texts, keys and values.
* **`Toml.write`** the text of a whole file.
-/

namespace TraceDiagram.Toml

open TraceDiagram.Text

/-! ## Texts -/

/-- The kinds of quotes. -/
inductive QuoteStyle where
  /-- Double quotes. -/
  | basic
  /-- Single quotes. -/
  | literal
  /-- Three double quotes. -/
  | longBasic
  /-- Three single quotes. -/
  | longLiteral
  deriving DecidableEq, Repr

/-- Whether a text holds a control character other than tabs and line ends. -/
def hasControl (cs : List Char) : Bool := cs.any fun c => !isPlain c && c ≠ '\n'

/-- The kind of quotes for a text: the first that needs no escapes, or else double quotes. -/
def QuoteStyle.ofText (cs : List Char) : QuoteStyle :=
  let control := hasControl cs
  let backslash := cs.contains '\\'
  let breaks := cs.contains '\n'
  if !control && !backslash && !cs.contains '"' && !breaks then .basic
  else if !control && !cs.contains '\'' && !breaks then .literal
  else if !control && !backslash && !occursIn ['"', '"', '"'] cs then .longBasic
  else if !control && !occursIn ['\'', '\'', '\''] cs then .longLiteral
  else if breaks then .longBasic
  else .basic

/-- The kind of quotes for a key that needs quotes; a key stands on one line. -/
def QuoteStyle.ofKey (cs : List Char) : QuoteStyle :=
  let control := hasControl cs || cs.contains '\n'
  if control || (cs.contains '"' || cs.contains '\\') && cs.contains '\'' then .basic
  else if cs.contains '"' || cs.contains '\\' then .literal
  else .basic

/-- An upper-case hexadecimal digit. -/
def hexDigit (n : Nat) : Char := Char.ofNat (if n < 10 then 48 + n else 55 + n)

/-- The four hexadecimal digits of a small number. -/
def fourHexDigits (n : Nat) : List Char :=
  [hexDigit (n / 4096 % 16), hexDigit (n / 256 % 16), hexDigit (n / 16 % 16), hexDigit (n % 16)]

/-- A character other than the double quote between double quotes; `long` says that there are three. -/
def escapedChar (long : Bool) (c : Char) : List Char :=
  if long && c = '\n' then [c]
  else match escapeLetters.find? fun p => p.2 = c with
    | some p => ['\\', p.1]
    | none => if isPlain c then [c] else '\\' :: 'u' :: fourHexDigits c.toNat

/-- A text between double quotes. Every double quote gets a backslash, or with three around the text every
third of a row; `run` counts those just before. -/
def escapedFrom (long : Bool) : Nat → List Char → List Char
  | _, [] => []
  | run, c :: cs =>
    if c = '"' then
      if (if long then 2 else 0) ≤ run then '\\' :: '"' :: escapedFrom long 0 cs
      else '"' :: escapedFrom long (run + 1) cs
    else escapedChar long c ++ escapedFrom long 0 cs

/-- A line end for a text of several lines, which then begins on a line of its own. -/
def lineStart (cs : List Char) : List Char := if cs.contains '\n' then ['\n'] else []

/-- A text in quotes of a kind. -/
def QuoteStyle.apply : QuoteStyle → List Char → List Char
  | .basic, cs => '"' :: escapedFrom false 0 cs ++ ['"']
  | .literal, cs => '\'' :: cs ++ ['\'']
  | .longBasic, cs => ['"', '"', '"'] ++ lineStart cs ++ escapedFrom true 0 cs ++ ['"', '"', '"']
  | .longLiteral, cs => ['\'', '\'', '\''] ++ lineStart cs ++ cs ++ ['\'', '\'', '\'']

/-- The form of a text. -/
def writtenText (s : String) : List Char := (QuoteStyle.ofText s.toList).apply s.toList

/-- The form of a key. -/
def writtenKey (s : String) : List Char :=
  let cs := s.toList
  if !cs.isEmpty && cs.all isKeyChar then cs else (QuoteStyle.ofKey cs).apply cs

/-! ## Values -/

/-- The form of a double. -/
def writtenFloat (x : Float) : List Char :=
  if x.isNaN then "nan".toList
  else if x.isInf then (if x < 0.0 then "-inf" else "inf").toList
  else dataFloatText x

mutual

/-- The form of a value. A list of several items has each on a line of its own. -/
def written : Toml → List Char
  | .text s => writtenText s
  | .int n => (toString n).toList
  | .float x => writtenFloat x
  | .flag b => (if b then "true" else "false").toList
  | .time t => t.toList
  | .list [] => ['[', ']']
  | .list [v] => '[' :: written v ++ [']']
  | .list items => '[' :: writtenItems items ++ ['\n', ']']
  | .table [] => ['{', '}']
  | .table (p :: rest) =>
    ['{', ' '] ++ writtenKey p.1 ++ [' ', '=', ' '] ++ written p.2 ++ writtenPairs rest ++ [' ', '}']

/-- The items of a list, each on a line of its own. -/
def writtenItems : List Toml → List Char
  | [] => []
  | v :: rest => "\n    ".toList ++ written v ++ ',' :: writtenItems rest

/-- The pairs of a table between braces, after the first. -/
def writtenPairs : List (String × Toml) → List Char
  | [] => []
  | p :: rest =>
    [',', ' '] ++ writtenKey p.1 ++ [' ', '=', ' '] ++ written p.2 ++ writtenPairs rest

end

/-! ## Files -/

/-- Whether a value gets a heading. -/
def isTable : Toml → Bool
  | .table _ => true
  | _ => false

/-- The line for a value. -/
def settingLine (p : String × Toml) : List Char :=
  writtenKey p.1 ++ [' ', '=', ' '] ++ written p.2 ++ ['\n']

/-- The line that begins the table with a path. -/
def headingLine (path : List String) : List Char :=
  if path.isEmpty then [] else '[' :: join ['.'] (path.map writtenKey) ++ [']', '\n']

/-- What a table writes itself, if anything: its heading and its values that are no tables. -/
def ownBlock (path : List String) (pairs : List (String × Toml)) : List (List Char) :=
  let settings := pairs.filter fun p => !isTable p.2
  if settings.isEmpty && (path.isEmpty || !pairs.isEmpty) then []
  else [headingLine path ++ settings.flatMap settingLine]

mutual

/-- What the table with a path writes, and the tables in it. -/
def blocks (path : List String) : Toml → List (List Char)
  | .table pairs => ownBlock path pairs ++ blocksOf path pairs
  | _ => []

/-- What the tables in a table write. -/
def blocksOf (path : List String) : List (String × Toml) → List (List Char)
  | [] => []
  | p :: rest => blocks (path ++ [p.1]) p.2 ++ blocksOf path rest

end

/-- The text of a whole file, with a blank line between tables. -/
def write (pairs : List (String × Toml)) : String :=
  String.ofList (join ['\n'] (blocks [] (.table pairs)))

end TraceDiagram.Toml
