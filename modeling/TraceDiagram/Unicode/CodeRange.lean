/-! # Ranges of code points

Sets of characters given as tables.

* **`CodeRange`** a first and a last code point.
* **`inRanges`** whether a character lies in one of several ranges.
* **`readRanges`** reads ranges written in hexadecimal, as in `41-5A 61-7A AA`.
-/

namespace TraceDiagram.Unicode

/-- A first and a last code point. -/
abbrev CodeRange := Nat × Nat

/-- Whether the code point of `c` lies in one of the ranges. -/
def inRanges (rs : List CodeRange) (c : Char) : Bool :=
  rs.any fun r => r.1 ≤ c.toNat && c.toNat ≤ r.2

/-- The value of an upper-case hexadecimal digit. -/
def upperHexValue (c : Char) : Nat :=
  if c.isDigit then c.toNat - '0'.toNat else c.toNat - 'A'.toNat + 10

/-- The range under construction: the first code point once a hyphen has been read, and the number
whose digits are being read. -/
structure PartialRange where
  /-- What stood before the hyphen. -/
  first : Option Nat := none
  /-- The number being read. -/
  number : Option Nat := none

/-- The ranges that a finished number adds to `done`. -/
def PartialRange.close (p : PartialRange) (done : List CodeRange) : List CodeRange :=
  match p.number with
  | none => done
  | some n => (p.first.getD n, n) :: done

/-- Reads ranges written in hexadecimal and separated by spaces or line ends. -/
def readRanges (text : String) : List CodeRange :=
  let step := fun (s : PartialRange × List CodeRange) (c : Char) =>
    if c = ' ' || c = '\n' then ({}, s.1.close s.2)
    else if c = '-' then ({ first := s.1.number }, s.2)
    else ({ s.1 with number := some (s.1.number.getD 0 * 16 + upperHexValue c) }, s.2)
  let r := text.toList.foldl step ({}, [])
  (r.1.close r.2).reverse

end TraceDiagram.Unicode
