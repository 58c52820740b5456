import TraceDiagram.Pattern.Match
import TraceDiagram.Pattern.Reader

/-! # Patterns

Regular expressions with named groups.

* **`Pattern`** a pattern that has been read.
* **`Pattern.compile`** reads a pattern from its written form.
* **`Pattern.groupNames`** the names of its groups, in the order of the groups.
* **`Pattern.captures`** searches a text; **`Captures.get?`** is the text that a named group matched.

Patterns are read as far as configurations make use of them. Refused are classes of the age of characters and of where
texts break into graphemes, words and sentences; the extended script of a character is taken for its script; classes
may be nested in one another to any depth; and the size of an automaton is reckoned from the tree.
-/

namespace TraceDiagram

open Pattern (Node State PatternError)

/-- A regular expression that has been read. -/
structure Pattern where
  /-- Its tree. -/
  node : Pattern.Node
  /-- The name of each group, group 0 first. -/
  names : List (Option String)
  deriving DecidableEq, Repr

/-- What the groups of a pattern matched. -/
structure Captures where
  /-- The name of each group of the pattern, group 0 first. -/
  names : List (Option String)
  /-- The state in which the pattern ended. -/
  finish : Pattern.State

namespace Pattern

/-- The greatest size of an automaton for a pattern, in bytes. -/
def sizeLimit : Nat := 10 * 1024 * 1024

/-- Reads a pattern from its written form. -/
def compile (text : String) : Except PatternError Pattern := do
  let (node, names) ← readNode text.toList
  if node.weight > sizeLimit then throw .tooLarge
  return { node := node, names := names }

/-- The names of the groups that have one, in order. -/
def groupNames (p : Pattern) : List String := p.names.filterMap id

/-- The groups of the leftmost match in a text. -/
def captures (p : Pattern) (text : List Char) : Option Captures :=
  (firstMatch p.node text).map fun s => { names := p.names, finish := s }

/-- Whether the pattern matches somewhere in a text. -/
def isMatch (p : Pattern) (text : List Char) : Bool := (firstMatch p.node text).isSome

end Pattern

/-- The text that the group with a given number matched. -/
def Captures.group? (c : Captures) (index : Nat) : Option (List Char) :=
  (c.finish.groups.lookup index).map fun e => e.text

/-- The text that the group with a given name matched, if it took part in the match. -/
def Captures.get? (c : Captures) (name : String) : Option String :=
  match c.names.idxOf? (some name) with
  | none => none
  | some index => (c.group? index).map String.ofList

end TraceDiagram
