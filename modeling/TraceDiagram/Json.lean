import TraceDiagram.Decimal.Shortest

/-! # Data values

The values of data files: null, truth values, numbers, texts, lists and objects.

* **`Json`** a value. An object's pairs stand in the order of their keys.
* **`Json.compact`** and **`Json.pretty`** its two written forms.
* **`Json.assign`** sets a key of an object's pairs and keeps the order.
-/

namespace TraceDiagram

/-- A number of a data file. -/
inductive Number where
  /-- A whole number. -/
  | int (value : Int)
  /-- A number with a fractional part or beyond the whole numbers' range. -/
  | float (value : Float)

/-- A value of a data file. -/
inductive Json where
  /-- No value. -/
  | null
  /-- A truth value. -/
  | flag (value : Bool)
  /-- A number. -/
  | number (value : Number)
  /-- A text. -/
  | text (value : String)
  /-- A list of values. -/
  | list (items : List Json)
  /-- Values by key, in the order of the keys. -/
  | object (pairs : List (String × Json))
  deriving Inhabited

namespace Number

/-- The number as a double. -/
def toFloat : Number → Float
  | .int n => Float.ofInt n
  | .float x => x

/-- The written form in a data file. -/
def dataText : Number → List Char
  | .int n => (toString n).toList
  | .float x => dataFloatText x

/-- The written form in running text. -/
def plainText : Number → List Char
  | .int n => (toString n).toList
  | .float x => plainFloatText x

/-- Whether two numbers are the same; a whole number differs from a fractional one. -/
def same : Number → Number → Bool
  | .int m, .int n => m == n
  | .float x, .float y => x == y
  | _, _ => false

end Number

namespace Json

/-- A whole number as a value. -/
def int (n : Int) : Json := .number (.int n)

/-- A double as a value; one that is not finite is no value. -/
def float (x : Float) : Json := if x.isFinite then .number (.float x) else .null

/-- Sets `key` to `value` in pairs that stand in the order of their keys. -/
def assign (key : String) (value : Json) : List (String × Json) → List (String × Json)
  | [] => [(key, value)]
  | (k, v) :: rest =>
    if key < k then (key, value) :: (k, v) :: rest
    else if key = k then (key, value) :: rest
    else (k, v) :: assign key value rest

/-- An object of the given pairs, of which later ones win. -/
def ofPairs (pairs : List (String × Json)) : Json :=
  .object (pairs.foldl (fun acc p => assign p.1 p.2 acc) [])

mutual

/-- Whether two values are the same. -/
def same : Json → Json → Bool
  | .null, .null => true
  | .flag a, .flag b => a == b
  | .number m, .number n => m.same n
  | .text s, .text t => s == t
  | .list xs, .list ys => sameItems xs ys
  | .object ps, .object qs => samePairs ps qs
  | _, _ => false

/-- Whether two lists of values are the same. -/
def sameItems : List Json → List Json → Bool
  | [], [] => true
  | x :: xs, y :: ys => same x y && sameItems xs ys
  | _, _ => false

/-- Whether the pairs of two objects are the same. -/
def samePairs : List (String × Json) → List (String × Json) → Bool
  | [], [] => true
  | (k, x) :: ps, (l, y) :: qs => k == l && same x y && samePairs ps qs
  | _, _ => false

end

/-! ## Written forms -/

/-- One character of a quoted text. -/
def quotedChar (c : Char) : List Char :=
  if c = '"' then ['\\', '"']
  else if c = '\\' then ['\\', '\\']
  else if c = '\n' then ['\\', 'n']
  else if c = '\r' then ['\\', 'r']
  else if c = '\t' then ['\\', 't']
  else if c.toNat = 8 then ['\\', 'b']
  else if c.toNat = 12 then ['\\', 'f']
  else if c.toNat < 32 then
    ['\\', 'u', '0', '0', Nat.digitChar (c.toNat / 16), Nat.digitChar (c.toNat % 16)]
  else [c]

/-- A text in quotes. -/
def quoted (s : String) : List Char := '"' :: s.toList.flatMap quotedChar ++ ['"']

mutual

/-- The written form on one line. -/
def compact : Json → List Char
  | .null => ['n', 'u', 'l', 'l']
  | .flag true => ['t', 'r', 'u', 'e']
  | .flag false => ['f', 'a', 'l', 's', 'e']
  | .number n => n.dataText
  | .text s => quoted s
  | .list items => '[' :: compactItems items ++ [']']
  | .object pairs => '\x7b' :: compactPairs pairs ++ ['\x7d']

/-- The items of a list on one line. -/
def compactItems : List Json → List Char
  | [] => []
  | [x] => compact x
  | x :: y :: rest => compact x ++ ',' :: compactItems (y :: rest)

/-- The pairs of an object on one line. -/
def compactPairs : List (String × Json) → List Char
  | [] => []
  | [(k, x)] => quoted k ++ ':' :: compact x
  | (k, x) :: p :: rest => quoted k ++ ':' :: compact x ++ ',' :: compactPairs (p :: rest)

end

/-- The start of a line at a depth: two blanks for each level. -/
def newline (depth : Nat) : List Char := '\n' :: List.replicate (2 * depth) ' '

mutual

/-- The written form over several lines, for a value that stands at a depth. -/
def prettyAt : Nat → Json → List Char
  | _, .list [] => ['[', ']']
  | depth, .list (x :: items) =>
    '[' :: newline (depth + 1) ++ prettyAt (depth + 1) x ++ prettyItems (depth + 1) items
      ++ newline depth ++ [']']
  | _, .object [] => ['\x7b', '\x7d']
  | depth, .object ((k, x) :: pairs) =>
    '\x7b' :: newline (depth + 1) ++ quoted k ++ ':' :: ' ' :: prettyAt (depth + 1) x
      ++ prettyPairs (depth + 1) pairs ++ newline depth ++ ['\x7d']
  | _, .null => compact .null
  | _, .flag b => compact (.flag b)
  | _, .number n => compact (.number n)
  | _, .text s => compact (.text s)

/-- The items of a list after the first. -/
def prettyItems : Nat → List Json → List Char
  | _, [] => []
  | depth, x :: rest => ',' :: newline depth ++ prettyAt depth x ++ prettyItems depth rest

/-- The pairs of an object after the first. -/
def prettyPairs : Nat → List (String × Json) → List Char
  | _, [] => []
  | depth, (k, x) :: rest =>
    ',' :: newline depth ++ quoted k ++ ':' :: ' ' :: prettyAt depth x ++ prettyPairs depth rest

end

/-- The written form over several lines. -/
def pretty (v : Json) : List Char := prettyAt 0 v

/-- The written form on one line, as a string. -/
def compactText (v : Json) : String := String.ofList (compact v)

/-- The written form over several lines, as a string. -/
def prettyText (v : Json) : String := String.ofList (pretty v)

/-- Whether a value counts as true: zero, the empty text, list and object, and null do not. -/
def truthy : Json → Bool
  | .null => false
  | .flag b => b
  | .number (.int n) => n != 0
  | .number (.float x) => x != 0.0 && !x.isNaN
  | .text s => !s.isEmpty
  | .list items => !items.isEmpty
  | .object pairs => !pairs.isEmpty

end Json

end TraceDiagram
