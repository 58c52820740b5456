import TraceDiagram.Json
import TraceDiagram.Text.Split

/-! # Values in templates

* **`Json.printed`** the text that a print tag gives for a value.
* **`Json.follow`** the part of a value that the names behind points mean.
* **`pointerNames`** those names; a name in double quotes may hold points.
-/

namespace TraceDiagram

namespace Json

mutual

/-- The text that a print tag gives for a value. -/
def printed : Json → List Char
  | .null => []
  | .flag true => ['t', 'r', 'u', 'e']
  | .flag false => ['f', 'a', 'l', 's', 'e']
  | .number n => n.plainText
  | .text s => s.toList
  | .list items => '[' :: printedItems items ++ [']']
  | .object _ => "[object]".toList

/-- The texts of the items of a list, with commas between them. -/
def printedItems : List Json → List Char
  | [] => []
  | [x] => printed x
  | x :: y :: rest => printed x ++ ',' :: ' ' :: printedItems (y :: rest)

end

/-- The text that a print tag gives for a value. -/
def printedText (v : Json) : String := String.ofList (printed v)

end Json

namespace Template

open Text

/-- Cuts a path at its points, except those between double quotes. -/
def cutPath (inQuotes : Bool) : List Char → List (List Char)
  | [] => [[]]
  | c :: cs =>
    if c = '"' then consFirst c (cutPath (!inQuotes) cs)
    else if c = '.' && !inQuotes then [] :: cutPath inQuotes cs
    else consFirst c (cutPath inQuotes cs)

/-- A name without the double quotes around it. -/
def unquote (cs : List Char) : List Char :=
  ((cs.dropWhile (· = '"')).reverse.dropWhile (· = '"')).reverse

/-- The names in a path. -/
def pointerNames (path : List Char) : List String :=
  if path.isEmpty then [] else (cutPath false path).map fun name => String.ofList (unquote name)

/-- The place in a list that a name means, if it is written as a number. -/
def listIndex? (name : String) : Option Nat :=
  let cs := name.toList
  if cs.isEmpty || !cs.all Char.isDigit || (cs.head? = some '0' && 1 < cs.length) then none
  else some (cs.foldl (fun n c => 10 * n + (c.toNat - 48)) 0)

end Template

/-- The part of a value that a name means. -/
def Json.child? (name : String) : Json → Option Json
  | .object pairs => pairs.lookup name
  | .list items => (Template.listIndex? name).bind fun i => items[i]?
  | _ => none

/-- The part of a value that some names mean, one after the other. -/
def Json.followNames : List String → Json → Option Json
  | [], v => some v
  | name :: names, v => (v.child? name).bind (Json.followNames names)

/-- The part of a value that a path means. -/
def Json.follow (path : List Char) (v : Json) : Option Json :=
  Json.followNames (Template.pointerNames path) v

end TraceDiagram
