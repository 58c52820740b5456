import TraceDiagram.Text.Blank
import TraceDiagram.Unicode.Digit
import TraceDiagram.Unicode.LetterCase
import TraceDiagram.Unicode.Property
import TraceDiagram.Unicode.Word

/-! # Sets of characters

The sets that a pattern can name, as an expression and by membership.

* **`CharSet`** ranges, classes, named sets, and the operations on them.
* **`CharSet.mem`** membership.
* **`CharSet.weight`** an estimate of how many ranges a set is made of.
-/

namespace TraceDiagram.Pattern

open Unicode Text

/-- A set of characters. -/
inductive CharSet where
  /-- No character. -/
  | none
  /-- The characters from `first` to `last`. -/
  | range (first last : Char)
  /-- Word characters. -/
  | word
  /-- Decimal digits. -/
  | digit
  /-- White space. -/
  | space
  /-- A set with a name. -/
  | named (set : CodeSet)
  /-- The characters outside `set`. -/
  | compl (set : CharSet)
  /-- The characters in either set. -/
  | union (left right : CharSet)
  /-- The characters in both sets. -/
  | inter (left right : CharSet)
  /-- The characters that equal one of `set` up to case. -/
  | folded (set : CharSet)
  /-- The characters that equal one of `set` up to the case of ASCII letters. -/
  | foldedAscii (set : CharSet)
  deriving DecidableEq, Repr

namespace CharSet

/-- Whether `c` is in the set. -/
def mem : CharSet → Char → Bool
  | .none, _ => false
  | .range first last, c => first ≤ c && c ≤ last
  | .word, c => isWord c
  | .digit, c => isDigit c
  | .space, c => isBlank c
  | .named set, c => set.mem c
  | .compl set, c => !set.mem c
  | .union left right, c => left.mem c || right.mem c
  | .inter left right, c => left.mem c && right.mem c
  | .folded set, c => (caseOrbit c).any fun d => set.mem d
  | .foldedAscii set, c => set.mem c || set.mem c.toLower || set.mem c.toUpper

/-- The set of one character. -/
def single (c : Char) : CharSet := .range c c

@[simp] theorem mem_single (c d : Char) : (single c).mem d = decide (d = c) := by
  simp only [single, mem]
  by_cases h : d = c
  · subst h
    simp
  · simp only [h, decide_false, Bool.and_eq_false_iff, decide_eq_false_iff_not]
    by_cases h₁ : c ≤ d
    · exact Or.inr fun h₂ => h (Char.le_antisymm h₂ h₁)
    · exact Or.inl h₁

/-- The set of all characters. -/
def all : CharSet := .compl .none

/-- The characters of the first set that are not in the second. -/
def diff (left right : CharSet) : CharSet := .inter left (.compl right)

/-- The characters in exactly one of two sets. -/
def symmDiff (left right : CharSet) : CharSet := .union (diff left right) (diff right left)

/-- The union of some ranges. -/
def ofRanges (rs : List (Char × Char)) : CharSet :=
  rs.foldl (fun s r => .union s (.range r.1 r.2)) .none

/-- Whether a set, read as a set of bytes, has one outside ASCII. -/
def hasHighByte (s : CharSet) : Bool :=
  (List.range 128).any fun i => s.mem (Char.ofNat (128 + i))

/-- An estimate of how many ranges of code points the set is made of. -/
def weight : CharSet → Nat
  | .none => 0
  | .range _ last => if last.val < 0x80 then 1 else 4
  | .word => 800
  | .digit => 70
  | .space => 10
  | .named set => set.ranges.length + 2
  | .compl set => set.weight + 8
  | .union left right => left.weight + right.weight
  | .inter left right => min left.weight right.weight
  | .folded set => 2 * set.weight
  | .foldedAscii set => 2 * set.weight

end CharSet

end TraceDiagram.Pattern
