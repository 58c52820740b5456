import TraceDiagram.Unicode.Property

/-! # Grapheme clusters

What a reader takes for one character may be several code points: a letter and its accents, a flag, an
emoji with modifiers, a syllable of joined letters.

* **`graphemes`** cuts a text into such clusters (the extended clusters of Unicode, without the rule for
  conjuncts and for characters that attach to what follows).
-/

namespace TraceDiagram.Text

open Unicode

/-- Code points that extend the cluster in front of them. -/
def extendRanges : List CodeRange :=
  categoryRanges ["Mn", "Me", "Mc"] ++ binaryRanges "Emoji_Modifier" ++
    [(0x200C, 0x200D), (0xE33, 0xE33), (0xEB3, 0xEB3), (0xFF9E, 0xFF9F), (0xE0020, 0xE007F)]

/-- The parts of a joined syllable. -/
inductive Jamo where
  /-- A leading consonant. -/
  | leading
  /-- A vowel, or a syllable that ends in one. -/
  | vowel
  /-- A trailing consonant, or a syllable that ends in one. -/
  | trailing
  deriving DecidableEq, Repr

/-- The part of a joined syllable that `c` ends with. -/
def jamo? (c : Char) : Option Jamo :=
  let n := c.toNat
  if (0x1100 ≤ n && n ≤ 0x115F) || (0xA960 ≤ n && n ≤ 0xA97C) then some .leading
  else if (0x1160 ≤ n && n ≤ 0x11A7) || (0xD7B0 ≤ n && n ≤ 0xD7C6) then some .vowel
  else if (0x11A8 ≤ n && n ≤ 0x11FF) || (0xD7CB ≤ n && n ≤ 0xD7FB) then some .trailing
  else if 0xAC00 ≤ n && n ≤ 0xD7A3 then some (if (n - 0xAC00) % 28 = 0 then .vowel else .trailing)
  else none

/-- Whether `c` is a syllable by itself and so begins one. -/
def isSyllable (c : Char) : Bool := 0xAC00 ≤ c.toNat && c.toNat ≤ 0xD7A3

/-- Whether `c` joins the syllable that ends in `before`. -/
def joinsSyllable (before c : Char) : Bool :=
  match jamo? before, jamo? c with
  | some .leading, some .leading => true
  | some .leading, some .vowel => true
  | some .leading, some .trailing => isSyllable c
  | some .vowel, some .vowel => !isSyllable c
  | some .vowel, some .trailing => !isSyllable c
  | some .trailing, some .trailing => !isSyllable c
  | _, _ => false

/-- Whether `c` is half of a flag. -/
def isFlagHalf (c : Char) : Bool := 0x1F1E6 ≤ c.toNat && c.toNat ≤ 0x1F1FF

/-- Whether no cluster goes on behind or in front of `c`. -/
def standsAlone (c : Char) : Bool :=
  c = '\r' || c = '\n' || inRanges (categoryRanges ["Cc", "Zl", "Zp"]) c

/-- Whether `c` goes on with a cluster given with its last character first. -/
def joinsCluster (cluster : List Char) (c : Char) : Bool :=
  match cluster with
  | [] => false
  | last :: earlier =>
    if last = '\r' && c = '\n' then true
    else if standsAlone last || standsAlone c then false
    else if inRanges extendRanges c then true
    else if isFlagHalf last && isFlagHalf c then (cluster.takeWhile isFlagHalf).length % 2 = 1
    else if last.toNat = 0x200D && inRanges (binaryRanges "Extended_Pictographic") c then
      match earlier.dropWhile fun e => inRanges extendRanges e && e.toNat ≠ 0x200D with
      | [] => false
      | base :: _ => inRanges (binaryRanges "Extended_Pictographic") base
    else joinsSyllable last c

/-- The clusters of what follows `cluster`, which has its last character first. -/
def graphemesFrom (cluster : List Char) : List Char → List (List Char)
  | [] => if cluster.isEmpty then [] else [cluster.reverse]
  | c :: cs =>
    if joinsCluster cluster c then graphemesFrom (c :: cluster) cs
    else if cluster.isEmpty then graphemesFrom [c] cs
    else cluster.reverse :: graphemesFrom [c] cs

/-- The grapheme clusters of a text. -/
def graphemes (cs : List Char) : List (List Char) :=
  if cs.all fun c => 0x20 ≤ c.toNat && c.toNat < 0x300 then cs.map ([·]) else graphemesFrom [] cs

end TraceDiagram.Text
