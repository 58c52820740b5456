import TraceDiagram.Unicode.BinaryProperty
import TraceDiagram.Unicode.GeneralCategory
import TraceDiagram.Unicode.Script

/-! # Properties by name

The sets of characters that have a name: general categories and their groups, scripts, binary properties.
Names are compared loosely: case, spaces, hyphens, underscores and a leading `is` do not matter.

* **`CodeSet`** ranges of code points, or all others.
* **`namedSet`** the set with a given name, as in `\p{Greek}`.
* **`valuedSet`** the set for a property and its value, as in `\p{sc=Greek}`.
-/

namespace TraceDiagram.Unicode

/-- A set of characters: those in the ranges, or, complemented, those outside. -/
structure CodeSet where
  /-- The ranges. -/
  ranges : List CodeRange
  /-- Whether the set is what lies outside the ranges. -/
  complemented : Bool := false
  deriving DecidableEq, Repr

/-- Whether `c` is in the set. -/
def CodeSet.mem (s : CodeSet) (c : Char) : Bool := inRanges s.ranges c != s.complemented

/-- A name without what loose comparison ignores. -/
def looseName (name : String) : String :=
  let bare := (name.toList.filter fun c => !(c == ' ' || c == '-' || c == '_')).map Char.toLower
  match bare with
  | 'i' :: 's' :: rest => if rest = ['c'] then "isc" else String.ofList rest
  | _ => String.ofList bare

/-- The code points of some general categories. -/
def categoryRanges (shorts : List String) : List CodeRange :=
  (generalCategories.filter fun g => shorts.contains g.short).flatMap fun g => readRanges g.text

/-- The groups of general categories: names in loose form, and the categories in the group. -/
def categoryGroups : List (List String × List String) := [
  (["l", "letter"], ["Lu", "Ll", "Lt", "Lm", "Lo"]),
  (["lc", "casedletter"], ["Lu", "Ll", "Lt"]),
  (["m", "mark", "combiningmark"], ["Mn", "Mc", "Me"]),
  (["n", "number"], ["Nd", "Nl", "No"]),
  (["p", "punctuation", "punct"], ["Pc", "Pd", "Ps", "Pe", "Pi", "Pf", "Po"]),
  (["s", "symbol"], ["Sm", "Sc", "Sk", "So"]),
  (["z", "separator"], ["Zs", "Zl", "Zp"]),
  (["cntrl"], ["Cc"]),
  (["digit"], ["Nd"])]

/-- The set for the loose name of a general category or of a group of them. -/
def categorySet? (loose : String) : Option CodeSet :=
  if loose = "any" then some { ranges := [(0, 0x10FFFF)] }
  else if loose = "ascii" then some { ranges := [(0, 0x7F)] }
  else if loose = "assigned" then some { ranges := categoryRanges (generalCategories.map (·.short)) }
  else if loose = "cn" || loose = "unassigned" then
    some { ranges := categoryRanges (generalCategories.map (·.short)), complemented := true }
  else if loose = "c" || loose = "other" then
    some {
      ranges := categoryRanges
        ((generalCategories.map (·.short)).filter fun g => !(["Cc", "Cf", "Co"].contains g))
      complemented := true }
  else match categoryGroups.find? fun g => g.1.contains loose with
    | some g => some { ranges := categoryRanges g.2 }
    | none =>
      (generalCategories.find? fun g => looseName g.short == loose || looseName g.long == loose).map
        fun g => { ranges := readRanges g.text }

/-- The set for the loose name of a script. -/
def scriptSet? (loose : String) : Option CodeSet :=
  let loose := if loose = "qaac" then "copt" else if loose = "qaai" then "zinh" else loose
  if loose = "unknown" || loose = "zzzz" then
    some { ranges := scripts.flatMap fun s => readRanges s.text, complemented := true }
  else
    (scripts.find? fun s => looseName s.code == loose || looseName s.long == loose).map
      fun s => { ranges := readRanges s.text }

/-- The ranges left after taking `holes`, single ranges inside them, out of `rs`. -/
def removeRanges (rs holes : List CodeRange) : List CodeRange :=
  holes.foldl (fun rs h => rs.flatMap fun r =>
    if h.2 < r.1 || r.2 < h.1 then [r]
    else (if r.1 < h.1 then [(r.1, h.1 - 1)] else []) ++ (if h.2 < r.2 then [(h.2 + 1, r.2)] else [])) rs

/-- The code points of a binary property. -/
def BinaryProperty.ranges (p : BinaryProperty) : List CodeRange :=
  removeRanges (categoryRanges p.categories) (readRanges p.removed) ++ readRanges p.added

/-- The set for the loose name of a binary property. -/
def binarySet? (loose : String) : Option CodeSet :=
  (binaryProperties.find? fun p =>
      looseName p.short == loose || looseName p.long == loose ||
        (loose == "whitespace" && p.short == "space")).map
    fun p => { ranges := p.ranges }

/-- The set with a given name: a binary property, a general category or a script. -/
def namedSet (name : String) : Option CodeSet :=
  let loose := looseName name
  if loose = "cf" || loose = "sc" || loose = "lc" then categorySet? loose
  else binarySet? loose <|> categorySet? loose <|> scriptSet? loose

/-- The set for a property and its value. -/
def valuedSet (property value : String) : Option CodeSet :=
  let property := looseName property
  let value := looseName value
  if property = "gc" || property = "generalcategory" then categorySet? value
  else if property = "sc" || property = "script" then scriptSet? value
  else if property = "scx" || property = "scriptextensions" then scriptSet? value
  else none

/-- The code points of the binary property with a given long name. -/
def binaryRanges (long : String) : List CodeRange :=
  match binaryProperties.find? fun p => p.long == long with
  | some p => p.ranges
  | none => []

/-- The code points of letters that have case. -/
def casedRanges : List CodeRange := binaryRanges "Cased"

/-- The code points that are passed over when looking for a letter with case. -/
def caseIgnorableRanges : List CodeRange := binaryRanges "Case_Ignorable"

end TraceDiagram.Unicode
