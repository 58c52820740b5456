import TraceDiagram.Pattern.CharSet

/-! # Pattern trees

What a pattern is, once read: flags are resolved and classes are sets of characters.

* **`Assertion`** a condition on a place in the text.
* **`Node`** a pattern.
* **`Node.weight`** an estimate of the size of an automaton for the pattern.
-/

namespace TraceDiagram.Pattern

/-- A condition on a place in the text. `unicode` tells which characters count as word characters: those
of all scripts or those of ASCII. -/
inductive Assertion where
  /-- The text begins here. -/
  | textStart
  /-- The text ends here. -/
  | textEnd
  /-- A line begins here. -/
  | lineStart
  /-- A line ends here. -/
  | lineEnd
  /-- A line begins here, where carriage returns end lines too. -/
  | lineStartCrlf
  /-- A line ends here, where carriage returns end lines too. -/
  | lineEndCrlf
  /-- A word begins or ends here. -/
  | wordBoundary (unicode : Bool)
  /-- No word begins or ends here. -/
  | notWordBoundary (unicode : Bool)
  /-- A word begins here. -/
  | wordStart (unicode : Bool)
  /-- A word ends here. -/
  | wordEnd (unicode : Bool)
  /-- No word character stands before. -/
  | wordStartHalf (unicode : Bool)
  /-- No word character stands after. -/
  | wordEndHalf (unicode : Bool)
  deriving DecidableEq, Repr

/-- Whether `c` counts as a word character. -/
def wordCharacter (unicode : Bool) (c : Char) : Bool :=
  if unicode then Unicode.isWord c else Unicode.isAsciiWord c

/-- Whether the condition holds between the characters `before` and `after`. -/
def Assertion.holds (a : Assertion) (before after : Option Char) : Bool :=
  let wordBefore := fun u => before.any (wordCharacter u)
  let wordAfter := fun u => after.any (wordCharacter u)
  match a with
  | .textStart => before.isNone
  | .textEnd => after.isNone
  | .lineStart => before.all (· == '\n')
  | .lineEnd => after.all (· == '\n')
  | .lineStartCrlf => before.all (· == '\n') || before == some '\r' && after != some '\n'
  | .lineEndCrlf => after.all (· == '\r') || after == some '\n' && before != some '\r'
  | .wordBoundary u => wordBefore u != wordAfter u
  | .notWordBoundary u => wordBefore u == wordAfter u
  | .wordStart u => !wordBefore u && wordAfter u
  | .wordEnd u => wordBefore u && !wordAfter u
  | .wordStartHalf u => !wordBefore u
  | .wordEndHalf u => !wordAfter u

/-- A pattern. Repetitions give the least and the greatest count, `none` being no bound, and whether more
repetitions are tried before fewer. -/
inductive Node where
  /-- The empty text. -/
  | empty
  /-- One character of a set. -/
  | one (set : CharSet)
  /-- The empty text, where a condition holds. -/
  | check (assertion : Assertion)
  /-- A group that remembers the text it matches. -/
  | group (index : Nat) (body : Node)
  /-- One pattern after another. -/
  | seq (first second : Node)
  /-- One pattern or, failing that, another. -/
  | alt (first second : Node)
  /-- Characters of a set, repeated. -/
  | span (set : CharSet) (least : Nat) (most : Option Nat) (greedy : Bool)
  /-- A pattern, repeated. -/
  | loop (body : Node) (least : Nat) (most : Option Nat) (greedy : Bool)
  deriving DecidableEq, Repr

namespace Node

/-- The size of `count` copies of something of size `size`, with `extra` for each optional copy. -/
def repeatWeight (size extra least : Nat) : Option Nat → Nat
  | none => size * max least 1 + extra
  | some most => size * most + extra * (most - least)

/-- The size of a node that matches one character of a set. -/
def setWeight (set : CharSet) : Nat := 40 + 64 * (set.weight - 1)

/-- An estimate, in bytes, of the size of an automaton for the pattern in which every repetition is
written out. -/
def weight : Node → Nat
  | .empty => 32
  | .one set => setWeight set
  | .check _ => 32
  | .group _ body => body.weight + 64
  | .seq first second => first.weight + second.weight
  | .alt first second => first.weight + second.weight + 40
  | .span set least most _ => repeatWeight (setWeight set) 40 least most
  | .loop body least most _ => repeatWeight body.weight 40 least most

/-- `body` repeated: characters of one set as a span, everything else as a loop. -/
def repeated (body : Node) (least : Nat) (most : Option Nat) (greedy : Bool) : Node :=
  match body with
  | .one set => .span set least most greedy
  | _ => .loop body least most greedy

/-- Patterns one after another. -/
def sequence : List Node → Node
  | [] => .empty
  | first :: rest => rest.foldl .seq first

/-- Alternatives, the preferred one first. -/
def choice : List Node → Node
  | [] => .empty
  | [only] => only
  | first :: rest => .alt first (choice rest)

end Node

end TraceDiagram.Pattern
