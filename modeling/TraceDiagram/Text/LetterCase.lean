import TraceDiagram.Unicode.LetterCase
import TraceDiagram.Unicode.Property

/-! # Letter case of texts

* **`upperText`** and **`lowerText`** map a text character by character. A capital sigma at the end of a
  word becomes a final sigma.
-/

namespace TraceDiagram.Text

open Unicode

/-- The text in upper case. -/
def upperText (cs : List Char) : List Char := cs.flatMap uppercase

/-- Whether a letter with case comes next, when characters without bearing on case are passed over. -/
def casedComesNext (cs : List Char) : Bool :=
  match cs.dropWhile fun c => inRanges caseIgnorableRanges c with
  | [] => false
  | c :: _ => inRanges casedRanges c

/-- The text in lower case; `before` is what stands in front of it, last character first. -/
def lowerTextFrom (before : List Char) : List Char → List Char
  | [] => []
  | c :: cs =>
    let low :=
      if c.toNat = 0x3A3 && casedComesNext before && !casedComesNext cs then [Char.ofNat 0x3C2]
      else lowercase c
    low ++ lowerTextFrom (c :: before) cs

/-- The text in lower case. -/
def lowerText (cs : List Char) : List Char := lowerTextFrom [] cs

end TraceDiagram.Text
