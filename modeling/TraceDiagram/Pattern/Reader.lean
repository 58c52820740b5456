import TraceDiagram.Pattern.Node
import TraceDiagram.Text.Split

/-! # Reading patterns

The written form of patterns: literals, classes, groups, repetition, assertions and flags.

* **`PatternError`** why a pattern is refused.
* **`Flags`** what changes the meaning of the text that follows.
* **`Reader`** a step that reads part of a pattern.
* **`readNode`** reads a whole pattern: its tree and the names of its groups.
-/

namespace TraceDiagram.Pattern

open Unicode Text

/-- Why a pattern is refused. -/
inductive PatternError where
  /-- It is not written as patterns are. -/
  | malformed
  /-- An automaton for it would be too large. -/
  | tooLarge
  deriving DecidableEq, Repr

/-- The flags in force at a place in a pattern. -/
structure Flags where
  /-- Case does not matter. -/
  ignoreCase : Bool := false
  /-- `^` and `$` hold at line ends. -/
  multiLine : Bool := false
  /-- The dot matches line ends. -/
  dotAll : Bool := false
  /-- Carriage returns end lines. -/
  crlf : Bool := false
  /-- Repetitions try fewer rounds first unless marked. -/
  swapGreed : Bool := false
  /-- Classes range over all characters, not ASCII alone. -/
  unicode : Bool := true
  /-- White space and comments between the parts of a pattern are passed over. -/
  spaced : Bool := false
  deriving DecidableEq, Repr

/-- What is left to read, the flags in force, and the groups opened so far with their names. -/
structure ReadState where
  /-- The text that is left. -/
  rest : List Char
  /-- The flags in force. -/
  flags : Flags := {}
  /-- The name of each group, group 0 first. -/
  names : List (Option String) := [none]

/-- A step that reads part of a pattern. -/
abbrev Reader := StateT ReadState (Except PatternError)

/-- Refuses the pattern. -/
def malformed {α : Type} : Reader α := throw .malformed

/-! ## Moving through the text -/

/-- The text without white space and comments at its start; `inComment` if a comment has begun. -/
def dropSpaced (inComment : Bool) : List Char → List Char
  | [] => []
  | c :: cs =>
    if inComment then dropSpaced (c != '\n') cs
    else if isBlank c then dropSpaced false cs
    else if c = '#' then dropSpaced true cs
    else c :: cs

/-- The text that is left. -/
def remaining : Reader (List Char) := do return (← get).rest

/-- The next character; there has to be one. -/
def nextChar : Reader Char := do
  match (← get).rest with
  | c :: _ => return c
  | [] => malformed

/-- Passes over one character. -/
def skip : Reader Unit := modify fun s => { s with rest := s.rest.drop 1 }

/-- Passes over white space and comments, where they do not matter. -/
def skipSpaced : Reader Unit :=
  modify fun s => if s.flags.spaced then { s with rest := dropSpaced false s.rest } else s

/-- Passes over one character and what does not matter after it. -/
def advance : Reader Unit := do skip; skipSpaced

/-- Passes over white space, whatever the flags. -/
def skipBlank : Reader Unit := modify fun s => { s with rest := s.rest.dropWhile isBlank }

/-- Passes over a given text, if it comes next. -/
def accept (text : List Char) : Reader Bool := do
  let s ← get
  if text.isPrefixOf s.rest then
    set { s with rest := s.rest.drop text.length }
    return true
  else return false

/-- Whether nothing is left. -/
def atEnd : Reader Bool := do return (← get).rest.isEmpty

/-! ## Characters and classes -/

/-- The value of a hexadecimal digit. -/
def hexValue? (c : Char) : Option Nat :=
  if '0' ≤ c && c ≤ '9' then some (c.toNat - '0'.toNat)
  else if 'a' ≤ c && c ≤ 'f' then some (c.toNat - 'a'.toNat + 10)
  else if 'A' ≤ c && c ≤ 'F' then some (c.toNat - 'A'.toNat + 10)
  else none

/-- The character with a given code point. -/
def charOfCode? (n : Nat) : Option Char := if n.isValidChar then some (Char.ofNat n) else none

/-- What an escape or a plain character stands for. -/
inductive Primitive where
  /-- A character; `asByte` if it was written as a byte. -/
  | literal (c : Char) (asByte : Bool)
  /-- Any character, line ends apart. -/
  | dot
  /-- A condition. -/
  | check (assertion : Assertion)
  /-- A class. -/
  | set (set : CharSet)

/-- Reads `count` hexadecimal digits; the first is the next character. -/
def readHexDigits : Nat → Nat → Reader Nat
  | 0, value => return value
  | count + 1, value => do
    match hexValue? (← nextChar) with
    | none => malformed
    | some d =>
      advance
      readHexDigits count (value * 16 + d)

/-- Reads hexadecimal digits up to a closing brace. -/
def readBracedHex : Nat → Nat → Nat → Reader Nat
  | 0, _, _ => malformed
  | fuel + 1, count, value => do
    let c ← nextChar
    advance
    if c = '\x7d' then
      if count = 0 then malformed else return value
    else match hexValue? c with
      | none => malformed
      | some d => readBracedHex fuel (count + 1) (value * 16 + d)

/-- Reads a character given by its code point; the letter after the backslash comes next. -/
def readHexEscape : Reader Primitive := do
  let kind ← nextChar
  advance
  let value ←
    if (← nextChar) = '\x7b' then do
      advance
      readBracedHex ((← remaining).length + 1) 0 0
    else do
      let asByte := kind = 'x'
      let value ← readHexDigits (if asByte then 2 else if kind = 'u' then 4 else 8) 0
      if asByte then return .literal (Char.ofNat value) true
      pure value
  match charOfCode? value with
  | some c => return .literal c false
  | none => malformed

/-- The set `s` with the flags applied, and complemented if `negated`. Without the Unicode flag a set that
reaches beyond ASCII would match parts of characters, and is refused. -/
def finishSet (folds negated : Bool) (s : CharSet) : Reader CharSet := do
  let flags := (← get).flags
  let s := if folds && flags.ignoreCase then
      (if flags.unicode then CharSet.folded s else .foldedAscii s) else s
  let s := if negated then CharSet.compl s else s
  if !flags.unicode && s.hasHighByte then malformed else return s

/-- The class with a one-letter name in lower case. -/
def letterClass (unicode : Bool) (letter : Char) : CharSet :=
  if unicode then
    if letter = 'd' then .digit else if letter = 's' then .space else .word
  else if letter = 'd' then .range '0' '9'
  else if letter = 's' then .ofRanges [('\t', '\r'), (' ', ' ')]
  else .ofRanges [('0', '9'), ('A', 'Z'), ('_', '_'), ('a', 'z')]

/-- Reads the name of a set up to a closing brace. -/
def readBracedName : Nat → List Char → Reader (List Char)
  | 0, _ => malformed
  | fuel + 1, name => do
    let c ← nextChar
    if c = '\x7d' then
      skip
      return name.reverse
    else
      advance
      readBracedName fuel (c :: name)

/-- The set for a name in braces, as `Greek`, `sc=Greek`, `sc:Greek` or `sc!=Greek`, and whether its
complement is meant. -/
def bracedSet? (name : List Char) : Option (CodeSet × Bool) :=
  let valued := fun (p : List Char × List Char) (negated : Bool) =>
    (valuedSet (String.ofList p.1) (String.ofList p.2)).map fun s => (s, negated)
  match splitOnce? ['!', '='] name with
  | some p => valued p true
  | none => match splitOnce? [':'] name with
    | some p => valued p false
    | none => match splitOnce? ['='] name with
      | some p => valued p false
      | none => (namedSet (String.ofList name)).map fun s => (s, false)

/-- Reads a set with a name; the `p` or `P` comes next. -/
def readNamedSet : Reader CharSet := do
  let negated := (← nextChar) = 'P'
  advance
  let found ←
    if (← nextChar) = '\x7b' then do
      advance
      pure (bracedSet? (← readBracedName ((← remaining).length + 1) []))
    else do
      let c ← nextChar
      advance
      pure ((categorySet? (looseName (String.singleton c))).map fun s => (s, false))
  if !(← get).flags.unicode then malformed
  match found with
  | none => malformed
  | some (s, inverse) => finishSet true (negated != inverse) (.named s)

/-- The characters that mean something by themselves. -/
def isMeta (c : Char) : Bool := "\\.+*?()|[]\x7b\x7d^$#&-~".toList.contains c

/-- Whether a backslash before `c` gives `c` itself. -/
def isEscapable (c : Char) : Bool :=
  isMeta c || c.val < 0x80 && !(c.isAlphanum || c == '<' || c == '>')

/-- The names of the word assertions. -/
def wordAssertion? (name : List Char) (unicode : Bool) : Option Assertion :=
  if name = "start".toList then some (.wordStart unicode)
  else if name = "end".toList then some (.wordEnd unicode)
  else if name = "start-half".toList then some (.wordStartHalf unicode)
  else if name = "end-half".toList then some (.wordEndHalf unicode)
  else none

/-- Whether `c` can stand in the name of a word assertion. -/
def isAssertionChar (c : Char) : Bool := c.isAlpha || c == '-'

/-- Reads the name of a word assertion up to a closing brace. -/
def readAssertionName : Nat → List Char → Reader (List Char)
  | 0, _ => malformed
  | fuel + 1, name => do
    let c ← nextChar
    if isAssertionChar c then
      advance
      readAssertionName fuel (c :: name)
    else if c = '\x7d' then
      skip
      return name.reverse
    else malformed

/-- Reads what follows a word boundary: a name in braces makes it another assertion, anything else in
braces is left for a repetition. -/
def readWordBoundary (unicode : Bool) : Reader Assertion := do
  let before ← get
  match before.rest with
  | '\x7b' :: _ =>
    advance
    if isAssertionChar (← nextChar) then
      match wordAssertion? (← readAssertionName ((← remaining).length + 1) []) unicode with
      | some a => return a
      | none => malformed
    else
      set before
      return .wordBoundary unicode
  | _ => return .wordBoundary unicode

/-- The control characters that have a letter. -/
def controlEscape? (c : Char) : Option Char :=
  if c = 'a' then some '\x07' else if c = 'f' then some '\x0c' else if c = 't' then some '\t'
  else if c = 'n' then some '\n' else if c = 'r' then some '\r' else if c = 'v' then some '\x0b'
  else none

/-- Reads an escape; the backslash comes next. -/
def readEscape : Reader Primitive := do
  skip
  let c ← nextChar
  let unicode := (← get).flags.unicode
  if c.isDigit then malformed
  else if c = 'x' || c = 'u' || c = 'U' then readHexEscape
  else if c = 'p' || c = 'P' then return .set (← readNamedSet)
  else if "dswDSW".toList.contains c then
    skip
    return .set (← finishSet false c.isUpper (letterClass unicode c.toLower))
  else
    skip
    if isEscapable c then return .literal c false
    match controlEscape? c with
    | some d => return .literal d false
    | none =>
      if c = 'A' then return .check .textStart
      else if c = 'z' then return .check .textEnd
      else if c = 'b' then return .check (← readWordBoundary unicode)
      else if c = 'B' then return .check (.notWordBoundary unicode)
      else if c = '<' then return .check (.wordStart unicode)
      else if c = '>' then return .check (.wordEnd unicode)
      else malformed

/-! ## Bracketed classes -/

/-- The operators between the parts of a bracketed class. -/
inductive SetOp where
  /-- What both have. -/
  | inter
  /-- What the left has and the right has not. -/
  | diff
  /-- What exactly one has. -/
  | symmDiff

/-- Applies an operator. -/
def SetOp.apply : SetOp → CharSet → CharSet → CharSet
  | .inter => .inter
  | .diff => .diff
  | .symmDiff => .symmDiff

/-- A bracketed class under construction. -/
structure ClassLevel where
  /-- Whether the complement is meant. -/
  negated : Bool
  /-- The operator that was read last and its left side. -/
  pending : Option (SetOp × CharSet) := none
  /-- The union of the items read since. -/
  items : CharSet := .none

/-- The class with an item added. -/
def ClassLevel.add (l : ClassLevel) (s : CharSet) : ClassLevel := { l with items := .union l.items s }

/-- A set closed under case, if case does not matter. -/
def foldSet (flags : Flags) (s : CharSet) : CharSet :=
  if flags.ignoreCase then (if flags.unicode then .folded s else .foldedAscii s) else s

/-- The set read so far: the pending operator applied to the items. -/
def ClassLevel.current (l : ClassLevel) (flags : Flags) : CharSet :=
  match l.pending with
  | none => l.items
  | some (op, left) => op.apply (foldSet flags left) (foldSet flags l.items)

/-- The sets of the bracketed names. -/
def asciiClass? (name : List Char) : Option CharSet :=
  let sets : List (String × List (Char × Char)) := [
    ("alnum", [('0', '9'), ('A', 'Z'), ('a', 'z')]), ("alpha", [('A', 'Z'), ('a', 'z')]),
    ("ascii", [('\x00', '\x7f')]), ("blank", [('\t', '\t'), (' ', ' ')]),
    ("cntrl", [('\x00', '\x1f'), ('\x7f', '\x7f')]), ("digit", [('0', '9')]), ("graph", [('!', '~')]),
    ("lower", [('a', 'z')]), ("print", [(' ', '~')]),
    ("punct", [('!', '/'), (':', '@'), ('[', '\x60'), ('\x7b', '~')]),
    ("space", [('\t', '\r'), (' ', ' ')]), ("upper", [('A', 'Z')]),
    ("word", [('0', '9'), ('A', 'Z'), ('_', '_'), ('a', 'z')]),
    ("xdigit", [('0', '9'), ('A', 'F'), ('a', 'f')])]
  (sets.find? fun s => s.1.toList == name).map fun s => .ofRanges s.2

/-- A bracketed name such as `[:alpha:]` at the start of a text: whether it is negated, its set, and the
text after it. -/
def bracketedName? (text : List Char) : Option (Bool × CharSet × List Char) :=
  match text with
  | '[' :: ':' :: rest =>
    let negated := rest.head? == some '^'
    let rest := if negated then rest.drop 1 else rest
    match rest.dropWhile (· != ':') with
    | ':' :: ']' :: after =>
      (asciiClass? (rest.takeWhile (· != ':'))).map fun s => (negated, s, after)
    | _ => none
  | _ => none

/-- A character as an item of a class. Without the Unicode flag it has to be ASCII. -/
def classChar (c : Char) (asByte : Bool) : Reader Char := do
  if !(← get).flags.unicode && (asByte || c.val > 0x7f) && c.val > 0x7f then malformed else return c

/-- Reads an escape or a plain character in a class. -/
def readClassPrimitive : Reader Primitive := do
  let c ← nextChar
  if c = '\\' then readEscape
  else
    skip
    return .literal c false

/-- The text after a hyphen that comes next. -/
def afterHyphen : Reader (List Char) := do
  let s ← get
  let rest := s.rest.drop 1
  return if s.flags.spaced then dropSpaced false rest else rest

/-- Reads a character, a range or a class inside brackets. -/
def readClassItem : Reader CharSet := do
  let first ← readClassPrimitive
  skipSpaced
  let next ← nextChar
  let after ← afterHyphen
  if next != '-' || after.head? == some ']' || after.head? == some '-' then
    match first with
    | .literal c asByte => return .single (← classChar c asByte)
    | .set s => return s
    | _ => malformed
  else
    advance
    let last ← readClassPrimitive
    match first, last with
    | .literal c b, .literal d b' =>
      let c ← classChar c b
      let d ← classChar d b'
      if c ≤ d then return .range c d else malformed
    | _, _ => malformed

/-- Reads the hyphens that may stand at the start of a class. -/
def readHyphens : Nat → ClassLevel → Reader ClassLevel
  | 0, _ => malformed
  | fuel + 1, l => do
    if (← nextChar) = '-' then
      advance
      readHyphens fuel (l.add (.single '-'))
    else return l

/-- Opens a bracketed class; the bracket comes next. Hyphens, and a bracket right at the start, are plain
characters there. -/
def openClass : Reader ClassLevel := do
  advance
  let negated := (← nextChar) = '^'
  if negated then advance
  let l ← readHyphens ((← remaining).length + 1) { negated := negated }
  match l.items with
  | .none =>
    if (← nextChar) = ']' then
      advance
      let _ ← nextChar
      return l.add (.single ']')
    else return l
  | _ => return l

/-- The operator at the start of a text. -/
def setOp? : List Char → Option SetOp
  | '&' :: '&' :: _ => some .inter
  | '-' :: '-' :: _ => some .diff
  | '~' :: '~' :: _ => some .symmDiff
  | _ => none

/-- Reads a bracketed class to its end, `outer` being the classes around it. -/
def readClassRest : Nat → List ClassLevel → ClassLevel → Reader CharSet
  | 0, _, _ => malformed
  | fuel + 1, outer, l => do
    skipSpaced
    let s ← get
    match setOp? s.rest with
    | some op =>
      skip
      skip
      readClassRest fuel outer { l with pending := some (op, l.current s.flags), items := .none }
    | none =>
      match s.rest with
      | [] => malformed
      | '[' :: _ =>
        match bracketedName? s.rest with
        | some (negated, set, after) =>
          modify fun s => { s with rest := after }
          readClassRest fuel outer (l.add (← finishSet true negated set))
        | none => readClassRest fuel (l :: outer) (← openClass)
      | ']' :: _ =>
        skip
        let set ← finishSet true l.negated (l.current s.flags)
        match outer with
        | [] => return set
        | parent :: further => readClassRest fuel further (parent.add set)
      | _ => readClassRest fuel outer (l.add (← readClassItem))

/-- Reads a bracketed class; the opening bracket comes next. -/
def readClass : Reader CharSet := do
  readClassRest ((← remaining).length + 1) [] (← openClass)

/-! ## Repetition -/

/-- Reads digits, with white space where it does not matter. -/
def readDigits : Nat → List Char → Reader (List Char)
  | 0, ds => return ds.reverse
  | fuel + 1, ds => do
    match (← get).rest with
    | c :: _ =>
      if c.isDigit then
        advance
        readDigits fuel (c :: ds)
      else return ds.reverse
    | [] => return ds.reverse

/-- Reads a count: none if there are no digits, refused if it does not fit 32 bits. -/
def readCount : Reader (Option Nat) := do
  skipBlank
  let ds ← readDigits ((← remaining).length + 1) []
  skipBlank
  if ds.isEmpty then return none
  let n := ds.foldl (fun n d => n * 10 + (d.toNat - '0'.toNat)) 0
  if n < UInt32.size then return some n else malformed

/-- Reads the bounds of a repetition in braces; the opening brace comes next. -/
def readBounds : Reader (Nat × Option Nat) := do
  advance
  let first ← readCount
  match first with
  | none => malformed
  | some least =>
    let next ← nextChar
    let bounds ←
      if next = ',' then do
        advance
        if (← nextChar) = '\x7d' then pure (least, none)
        else match ← readCount with
          | some most => pure (least, some most)
          | none => malformed
      else pure (least, some least)
    if (← nextChar) != '\x7d' then malformed
    advance
    match bounds.2 with
    | some most => if most < least then malformed else return bounds
    | none => return bounds

/-! ## Groups and alternatives -/

/-- A part of an alternative: its tree, how deeply it is nested, and whether it can be repeated. -/
structure Item where
  /-- The tree. -/
  node : Node
  /-- The nesting of what can be nested. -/
  height : Nat := 0
  /-- Whether a repetition can apply to it; a change of flags is no such part. -/
  repeatable : Bool := true

/-- The greatest nesting a pattern may have. -/
def maxHeight : Nat := 250

/-- The greatest height of some items. -/
def maxItemHeight (items : List Item) : Nat := items.foldl (fun h i => max h i.height) 0

/-- Items one after another, the last one first. -/
def concatItems (items : List Item) : Item where
  node := .sequence (items.reverse.map (·.node))
  height := if items.length > 1 then maxItemHeight items + 1 else maxItemHeight items

/-- A group under construction. -/
structure GroupLevel where
  /-- The alternatives that are complete, the last one first. -/
  alternatives : List Item := []
  /-- The items of the alternative being read, the last one first. -/
  items : List Item := []
  /-- The number under which the group is remembered. -/
  index : Option Nat := none
  /-- The flags to return to after the group. -/
  outerFlags : Flags := {}

namespace GroupLevel

/-- The group with an item added. -/
def add (l : GroupLevel) (i : Item) : GroupLevel := { l with items := i :: l.items }

/-- The group with a new alternative begun. -/
def next (l : GroupLevel) : GroupLevel :=
  { l with alternatives := concatItems l.items :: l.alternatives, items := [] }

/-- What the group's alternatives match. -/
def body (l : GroupLevel) : Item :=
  let branches := concatItems l.items :: l.alternatives
  { node := .choice (branches.reverse.map (·.node))
    height := if branches.length > 1 then maxItemHeight branches + 1 else maxItemHeight branches }

/-- The whole group. -/
def close (l : GroupLevel) : Item :=
  let inner := l.body
  { node := match l.index with
      | some i => .group i inner.node
      | none => inner.node
    height := inner.height + 1 }

end GroupLevel

/-- The flag with a given letter, set to `on`. -/
def setFlag? (flags : Flags) (letter : Char) (on : Bool) : Option Flags :=
  if letter = 'i' then some { flags with ignoreCase := on }
  else if letter = 'm' then some { flags with multiLine := on }
  else if letter = 's' then some { flags with dotAll := on }
  else if letter = 'R' then some { flags with crlf := on }
  else if letter = 'U' then some { flags with swapGreed := on }
  else if letter = 'u' then some { flags with unicode := on }
  else if letter = 'x' then some { flags with spaced := on }
  else none

/-- Reads flags up to a colon or a closing parenthesis, which is left. No flag may be given twice, and
the minus sign, given at most once, may not stand last. -/
def readFlags : Nat → List Char → Flags → Reader (List Char × Flags)
  | 0, _, _ => malformed
  | fuel + 1, seen, flags => do
    let c ← nextChar
    if c = ':' || c = ')' then
      if seen.head? == some '-' then malformed else return (seen, flags)
    else if seen.contains c then malformed
    else if c = '-' then
      skip
      readFlags fuel (c :: seen) flags
    else match setFlag? flags c (!seen.contains '-') with
      | none => malformed
      | some flags =>
        skip
        readFlags fuel (c :: seen) flags

/-- Whether `c` can stand in a group's name, or, if `first`, begin it. -/
def isNameChar (first : Bool) (c : Char) : Bool :=
  let alphabetic := fun c : Char =>
    if c.val < 0x80 then c.isAlpha else inRanges (binaryRanges "Alphabetic") c
  let numeric := fun c : Char =>
    if c.val < 0x80 then c.isDigit else inRanges (categoryRanges ["Nd", "Nl", "No"]) c
  if first then c == '_' || alphabetic c
  else c == '_' || c == '.' || c == '[' || c == ']' || alphabetic c || numeric c

/-- Reads a group's name up to the closing angle bracket. -/
def readGroupName : Nat → List Char → Reader String
  | 0, _ => malformed
  | fuel + 1, name => do
    let c ← nextChar
    skip
    if c = '>' then
      if name.isEmpty then malformed else return String.ofList name.reverse
    else if isNameChar name.isEmpty c then readGroupName fuel (c :: name)
    else malformed

/-- Opens a numbered group. -/
def openNumbered (name : Option String) : Reader GroupLevel := do
  let s ← get
  set { s with names := s.names ++ [name] }
  return { index := some s.names.length, outerFlags := s.flags }

/-- Opens a named group, after the opening angle bracket. No two groups have one name. -/
def openNamed : Reader GroupLevel := do
  let name ← readGroupName ((← remaining).length + 1) []
  if (← get).names.contains (some name) then malformed
  openNumbered (some name)

/-- Opens a group; the parenthesis comes next. Flags without a group change what follows instead. -/
def openGroup : Reader (Option GroupLevel) := do
  advance
  let rest ← remaining
  if ["?=", "?!", "?<=", "?<!"].any fun p => p.toList.isPrefixOf rest then malformed
  if ← accept "?P<".toList then return some (← openNamed)
  if ← accept "?<".toList then return some (← openNamed)
  if ← accept "?".toList then
    let outer := (← get).flags
    let (seen, flags) ← readFlags ((← remaining).length + 1) [] outer
    let last ← nextChar
    skip
    modify fun s => { s with flags := flags }
    if last = ')' then
      if seen.isEmpty then malformed else return none
    return some { outerFlags := outer }
  return some (← openNumbered none)

/-- The node of a character outside brackets. -/
def charNode (flags : Flags) (c : Char) (asByte : Bool) : Reader Node :=
  if asByte && !flags.unicode && c.val > 0x7f then malformed
  else return .one (foldSet flags (.single c))

/-- The node of the dot. Without the Unicode flag it would match parts of characters. -/
def dotNode (flags : Flags) : Reader Node :=
  if !flags.unicode then malformed
  else if flags.dotAll then return .one .all
  else if flags.crlf then return .one (.compl (.ofRanges [('\n', '\n'), ('\r', '\r')]))
  else return .one (.compl (.single '\n'))

/-- The assertion of `^`. -/
def startAssertion (flags : Flags) : Assertion :=
  if flags.multiLine then (if flags.crlf then .lineStartCrlf else .lineStart) else .textStart

/-- The assertion of `$`. -/
def endAssertion (flags : Flags) : Assertion :=
  if flags.multiLine then (if flags.crlf then .lineEndCrlf else .lineEnd) else .textEnd

/-- The node of an escape or a plain character. -/
def primitiveNode (flags : Flags) : Primitive → Reader Node
  | .literal c asByte => charNode flags c asByte
  | .dot => dotNode flags
  | .check a => return .check a
  | .set s => return .one s

/-- Reads a character, an escape, a dot or an anchor. -/
def readPrimitive : Reader Item := do
  let c ← nextChar
  let flags := (← get).flags
  let node ←
    if c = '\\' then do primitiveNode flags (← readEscape)
    else do
      skip
      if c = '.' then dotNode flags
      else if c = '^' then return { node := .check (startAssertion flags) }
      else if c = '$' then return { node := .check (endAssertion flags) }
      else charNode flags c false
  return { node := node }

/-- Repeats the last item; a question mark after the operator reverses its preference. -/
def repeatLast (l : GroupLevel) (least : Nat) (most : Option Nat) : Reader GroupLevel := do
  match l.items with
  | [] => malformed
  | i :: items =>
    if !i.repeatable then malformed
    let lazily ← accept ['?']
    let greedy := lazily == (← get).flags.swapGreed
    return { l with
      items := { node := i.node.repeated least most greedy, height := i.height + 1 } :: items }

/-- The groups that are open at a place, from the outside in: those around the innermost one, innermost
first, and that one. -/
abbrev OpenGroups := List GroupLevel × GroupLevel

/-- The bounds of a repetition in braces, if there is something to repeat. -/
def readBoundsFor (l : GroupLevel) : Reader (Nat × Option Nat) :=
  if l.items.isEmpty then malformed else readBounds

/-- Closes the innermost group; the parenthesis comes next. -/
def closeGroup (l : GroupLevel) : List GroupLevel → Reader OpenGroups
  | [] => malformed
  | parent :: further => do
    skip
    modify fun s => { s with flags := l.outerFlags }
    return (further, parent.add l.close)

/-- Reads one part of a pattern, the first of whose characters is `c`. -/
def readPart (outer : List GroupLevel) (l : GroupLevel) (c : Char) : Reader OpenGroups :=
  if c = '(' then do
    match ← openGroup with
    | none => return (outer, l.add { node := .empty, repeatable := false })
    | some inner => return (l :: outer, inner)
  else if c = ')' then closeGroup l outer
  else if c = '|' then do
    skip
    return (outer, l.next)
  else if c = '[' then do
    return (outer, l.add { node := .one (← readClass), height := 1 })
  else if c = '?' then do
    skip
    return (outer, ← repeatLast l 0 (some 1))
  else if c = '*' then do
    skip
    return (outer, ← repeatLast l 0 none)
  else if c = '+' then do
    skip
    return (outer, ← repeatLast l 1 none)
  else if c = '\x7b' then do
    let bounds ← readBoundsFor l
    return (outer, ← repeatLast l bounds.1 bounds.2)
  else do
    return (outer, l.add (← readPrimitive))

/-- What a pattern that ends here has read. -/
def finishGroups (l : GroupLevel) : List GroupLevel → Reader Item
  | [] => return l.body
  | _ => malformed

/-- Reads a pattern to its end, `outer` being the groups around the place that has been reached. -/
def readGroups : Nat → List GroupLevel → GroupLevel → Reader Item
  | 0, _, _ => malformed
  | fuel + 1, outer, l => do
    skipSpaced
    match ← remaining with
    | [] => finishGroups l outer
    | c :: _ =>
      let now ← readPart outer l c
      readGroups fuel now.1 now.2

/-- Reads a pattern: its tree, as group 0, and the names of its groups. -/
def readNode (text : List Char) : Except PatternError (Node × List (Option String)) := do
  let (item, s) ← (readGroups (text.length + 1) [] {}).run { rest := text }
  if item.height > maxHeight then throw .malformed
  return (.group 0 item.node, s.names)

end TraceDiagram.Pattern
