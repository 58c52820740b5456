import TraceDiagram.Text.Split
import TraceDiagram.Text.LetterCase
import TraceDiagram.Unicode.Word

/-! # Texts in other notations

* **`titleCase`** begins every word with a capital.
* **`escapeMarkup`** writes the characters that markup uses by their names, **`stripTags`** leaves tags out and
  **`dropTagGaps`** the white space between tags.
* **`percentEncode`** writes bytes in hexadecimal, **`slug`** makes a text fit to stand in an address.
-/

namespace TraceDiagram.Text

open Unicode

/-- Whether `c` may stand in a word of a title. -/
def inTitleWord (c : Char) : Bool := isWord c || c = '\''

/-- A word of a title, a capital first; apostrophes at its end are no part of it. -/
def titleWord (cs : List Char) : List Char :=
  match cs with
  | [] => []
  | c :: rest => uppercase c ++ lowerText rest

/-- The text with a capital at the start of each word. The word read so far stands with its last character
first. -/
def titleCaseFrom (word : List Char) : List Char → List Char
  | [] => titleWord word.reverse
  | c :: cs =>
    if word.isEmpty then
      if isWord c then titleCaseFrom [c] cs else c :: titleCaseFrom [] cs
    else if inTitleWord c then titleCaseFrom (c :: word) cs
    else titleWord word.reverse ++ c :: titleCaseFrom [] cs

/-- The text with a capital at the start of each word and small letters after it. -/
def titleCase (cs : List Char) : List Char := titleCaseFrom [] cs

/-- The text with its first character in upper case and the others in lower case. -/
def capitalized : List Char → List Char
  | [] => []
  | c :: cs => uppercase c ++ lowerText cs

/-- The characters that markup uses, by their names; the slash is one of them. -/
def markupNames : List (Char × String) := [
  ('&', "&amp;"), ('<', "&lt;"), ('>', "&gt;"), ('"', "&quot;"), ('\'', "&#x27;"), ('/', "&#x2F;")]

/-- The characters that plain markup uses, by their names. -/
def plainMarkupNames : List (Char × String) := [
  ('&', "&amp;"), ('<', "&lt;"), ('>', "&gt;"), ('"', "&quot;"), ('\'', "&apos;")]

/-- The text with some characters written by their names. -/
def escapeMarkup (names : List (Char × String)) (cs : List Char) : List Char :=
  cs.flatMap fun c => match names.lookup c with
    | some name => name.toList
    | none => [c]

/-- What stands behind the tag or comment that begins here, if one does. -/
def afterTag? (cs : List Char) : Option (List Char) :=
  let comment : Option (List Char) :=
    if "<!--".toList.isPrefixOf cs then
      match splitOnce? "-->".toList (cs.drop 4) with
      | some (body, rest) => if body.contains '\n' then none else some rest
      | none => none
    else none
  match comment, cs with
  | some rest, _ => some rest
  | none, '<' :: rest =>
    match rest.dropWhile (· ≠ '>') with
    | [] => none
    | _ :: behind => some behind
  | none, _ => none

/-- The text without tags, reading at most `fuel` characters or tags. -/
def stripTagsUpTo : Nat → List Char → List Char
  | 0, cs => cs
  | _ + 1, [] => []
  | fuel + 1, c :: cs =>
    match afterTag? (c :: cs) with
    | some rest => stripTagsUpTo fuel rest
    | none => c :: stripTagsUpTo fuel cs

/-- The text without tags and comments. -/
def stripTags (cs : List Char) : List Char := stripTagsUpTo (cs.length + 1) cs

/-- The text without the white space between a `>` and a `<`; `pending` is the white space behind a `>`, its
last character first. -/
def dropTagGapsFrom (pending : Option (List Char)) : List Char → List Char
  | [] => (pending.getD []).reverse
  | c :: cs =>
    if isBlank c then
      match pending with
      | some blanks => dropTagGapsFrom (some (c :: blanks)) cs
      | none => c :: dropTagGapsFrom none cs
    else
      let gap := if c = '<' then [] else (pending.getD []).reverse
      gap ++ c :: dropTagGapsFrom (if c = '>' then some [] else none) cs

/-- The text without the white space between tags. -/
def dropTagGaps (cs : List Char) : List Char := dropTagGapsFrom none cs

/-- A digit of sixteen. -/
def hexDigit (n : Nat) : Char := (Nat.digitChar n).toUpper

/-- The text with every byte in hexadecimal, but for the characters in `kept`. -/
def percentEncode (kept : Char → Bool) (cs : List Char) : List Char :=
  cs.flatMap fun c =>
    if kept c then [c]
    else (String.singleton c).toUTF8.toList.flatMap fun b =>
      ['%', hexDigit (b.toNat / 16), hexDigit (b.toNat % 16)]

/-- Whether a character may stand in an address as it is. -/
def keptInAddress (c : Char) : Bool :=
  c.isAlphanum || c = '/' || c = '%' || c = '~' || c = '_' || c = '-' || c = '.'

/-- Letters with marks, each row with the letters that stand for it in plain writing. -/
def plainLetters : List (String × String) := [
  ("ÀÁÂÃÄÅĀĂĄ", "A"), ("Æ", "AE"), ("ÇĆĈĊČ", "C"), ("ĎĐÐ", "D"), ("ÈÉÊËĒĔĖĘĚ", "E"), ("ĜĞĠĢ", "G"),
  ("ĤĦ", "H"), ("ÌÍÎÏĨĪĬĮİ", "I"), ("Ĵ", "J"), ("Ķ", "K"), ("ĹĻĽĿŁ", "L"), ("ÑŃŅŇŊ", "N"),
  ("ÒÓÔÕÖØŌŎŐ", "O"), ("Œ", "OE"), ("ŔŖŘ", "R"), ("ŚŜŞŠ", "S"), ("ŢŤŦ", "T"), ("Þ", "Th"),
  ("ÙÚÛÜŨŪŬŮŰŲ", "U"), ("Ŵ", "W"), ("ÝŶŸ", "Y"), ("ŹŻŽ", "Z"),
  ("àáâãäåāăą", "a"), ("æ", "ae"), ("çćĉċč", "c"), ("ďđð", "d"), ("èéêëēĕėęě", "e"), ("ĝğġģ", "g"),
  ("ĥħ", "h"), ("ìíîïĩīĭįı", "i"), ("ĵ", "j"), ("ķ", "k"), ("ĺļľŀł", "l"), ("ñńņňŋ", "n"),
  ("òóôõöøōŏő", "o"), ("œ", "oe"), ("ŕŗř", "r"), ("śŝşš", "s"), ("ß", "ss"), ("ţťŧ", "t"),
  ("þ", "th"), ("ùúûüũūŭůűų", "u"), ("ŵ", "w"), ("ýÿŷ", "y"), ("źżž", "z"), ("…", "..."), ("—–", "-")]

/-- The plain writing of a character, if it has one. -/
def plainLetter (c : Char) : List Char :=
  match plainLetters.find? fun row => row.1.toList.contains c with
  | some row => row.2.toList
  | none => [c]

/-- The words of small letters and digits with dashes between them; `dash` says whether one is due. -/
def slugFrom (started dash : Bool) : List Char → List Char
  | [] => []
  | c :: cs =>
    if c.isAlphanum then
      (if started && dash then ['-'] else []) ++ c.toLower :: slugFrom true false cs
    else slugFrom started true cs

/-- The text as words of small letters and digits with dashes between them. -/
def slug (cs : List Char) : List Char := slugFrom false false (cs.flatMap plainLetter)

end TraceDiagram.Text
