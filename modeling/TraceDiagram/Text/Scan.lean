/-! # Steps that read texts

* **`Scan`** a step that reads part of a text or fails. After a failure the next alternative starts at the
  same place, and the first alternative that reads anything is the one that counts.
* **`char`**, **`charsWhile`**, **`exactly`**, **`atEnd`** the smallest steps.
* **`many`** repeats a step, **`count`** repeats it a number of times, **`sepBy`** with another step in between.
* **`firstOf`** chooses a step, **`present`** says whether one reads anything.
-/

namespace TraceDiagram.Text

/-- A step that reads part of a text, or fails. -/
abbrev Scan := StateT (List Char) Option

namespace Scan

/-- Reads one character of a kind. -/
def char (p : Char → Bool) : Scan Char
  | [] => none
  | c :: cs => if p c then some (c, cs) else none

/-- Reads the characters of a kind that come next, if any. -/
def charsWhile (p : Char → Bool) : Scan (List Char) := fun cs =>
  some (cs.takeWhile p, cs.dropWhile p)

/-- Reads the given characters. -/
def exactly (word : String) : Scan Unit := fun cs =>
  if word.toList.isPrefixOf cs then some ((), cs.drop word.toList.length) else none

/-- Reads nothing, where the text goes on. -/
def notAtEnd : Scan Unit
  | [] => none
  | c :: cs => some ((), c :: cs)

/-- Reads nothing, at the end of the text. -/
def atEnd : Scan Unit
  | [] => some ((), [])
  | _ :: _ => none

/-- Whether a step reads something here; it is read then. -/
def present (p : Scan Unit) : Scan Bool := (p *> pure true) <|> pure false

/-- Reads with a step as often as it succeeds, at most `fuel` times. -/
def manyUpTo {α : Type} (p : Scan α) : Nat → Scan (List α)
  | 0 => pure []
  | fuel + 1 => fun cs =>
    match p cs with
    | none => some ([], cs)
    | some (a, rest) =>
      match manyUpTo p fuel rest with
      | none => none
      | some (as, rest') => some (a :: as, rest')

/-- Reads with a step as often as it succeeds. -/
def many {α : Type} (p : Scan α) : Scan (List α) := fun cs => manyUpTo p (cs.length + 1) cs

/-- Reads with a step a number of times. -/
def count {α : Type} (p : Scan α) : Nat → Scan (List α)
  | 0 => pure []
  | n + 1 => do
    let a ← p
    let as ← count p n
    return a :: as

/-- Reads with a step one or more times, with another step in between. -/
def sepBy {α : Type} (sep : Scan Unit) (p : Scan α) : Scan (List α) := do
  let first ← p
  let rest ← many (sep *> p)
  return first :: rest

/-- The first alternative that succeeds. -/
def firstOf {α : Type} : List (Scan α) → Scan α
  | [] => failure
  | p :: ps => p <|> firstOf ps

/-- The number that digits write. -/
def natOfDigits (ds : List Char) : Nat := ds.foldl (fun n c => 10 * n + (c.toNat - 48)) 0

end Scan

end TraceDiagram.Text
