import TraceDiagram.Decimal.Read
import TraceDiagram.Template.Arguments
import TraceDiagram.Template.Arithmetic
import TraceDiagram.Template.Printed
import TraceDiagram.Text.Calendar
import TraceDiagram.Text.Grapheme
import TraceDiagram.Text.Lines
import TraceDiagram.Text.Markup

/-! # Filters

* **`Filter`** a function from a value and named arguments to a value.
* **`Filter.find?`** the filter with a given name.
-/

namespace TraceDiagram.Template

open Text

/-- A function from a value and named arguments to a value. -/
abbrev Filter := Json → Args → Outcome Json

namespace Filter

/-- A text as a value. -/
def ofChars (cs : List Char) : Json := .text (String.ofList cs)

/-- A filter that maps texts to texts. -/
def onText (name : String) (f : List Char → List Char) : Filter := fun v _ => do
  let s ← textOf name v
  return ofChars (f s.toList)

/-- A separator as it is meant: a backslash and a letter may stand for a line end or a tab. -/
def meantText (s : String) : List Char :=
  replaceAll ['\\', 't'] ['\t'] (replaceAll ['\\', 'n'] ['\n'] s.toList)

/-! ## Texts -/

/-- The text without the occurrences of a piece in front, at most `fuel`. -/
def dropPieces (piece : List Char) : Nat → List Char → List Char
  | 0, cs => cs
  | fuel + 1, cs =>
    if !piece.isEmpty && piece.isPrefixOf cs then dropPieces piece fuel (cs.drop piece.length) else cs

/-- The text without the occurrences of a piece in front. -/
def trimStartMatches : Filter := fun v args => do
  let s ← textOf "trim_start_matches" v
  let piece ← neededText "trim_start_matches" "pat" args
  return ofChars (dropPieces (meantText piece) s.toList.length s.toList)

/-- The text without the occurrences of a piece at its end. -/
def trimEndMatches : Filter := fun v args => do
  let s ← textOf "trim_end_matches" v
  let piece ← neededText "trim_end_matches" "pat" args
  let cs := s.toList
  return ofChars (dropPieces (meantText piece).reverse cs.length cs.reverse).reverse

/-- The first characters of a text, and a mark if there are more. -/
def truncate : Filter := fun v args => do
  let s ← textOf "truncate" v
  let length := (← natArgument? "truncate" "length" args).getD 255
  let mark := (← textArgument? "truncate" "end" args).getD "…"
  let clusters := graphemes s.toList
  if clusters.length ≤ length then return .text s
  return ofChars ((clusters.take length).flatten ++ mark.toList)

/-- The number of words of a text. -/
def wordcount : Filter := fun v _ => do
  let s ← textOf "wordcount" v
  return Json.int (words s.toList).length

/-- The text with one piece in place of another. -/
def replace : Filter := fun v args => do
  let s ← textOf "replace" v
  let old ← neededText "replace" "from" args
  let new ← neededText "replace" "to" args
  return ofChars (replaceAll old.toList new.toList s.toList)

/-- The text with a piece of markup at each line end. -/
def breakLines (cs : List Char) : List Char :=
  replaceAll ['\n'] "<br>".toList (replaceAll ['\r', '\n'] "<br>".toList cs)

/-- The lines of a text behind an indentation. -/
def indent : Filter := fun v args => do
  let s ← textOf "indent" v
  let margin := ((← textArgument? "indent" "prefix" args).getD "    ").toList
  let first := (← flagArgument? "indent" "first" args).getD false
  let blank := (← flagArgument? "indent" "blank" args).getD false
  return ofChars <| match Text.lines s.toList with
    | [] => []
    | line :: rest =>
      (if first then margin else []) ++ line ++ rest.flatMap fun l =>
        '\n' :: (if blank || !(trimStartChars l).isEmpty then margin else []) ++ l

/-- The pieces of a text between occurrences of a separator. -/
def splitText : Filter := fun v args => do
  let s ← textOf "split" v
  let piece ← neededText "split" "pat" args
  return .list ((split (meantText piece) s.toList).map ofChars)

/-- The value as a whole number. -/
def int : Filter := fun v args => do
  let fallback := (← argumentOf? "int" "default" "i64"
    (Json.toIntWithin? Int64.minValue.toInt Int64.maxValue.toInt) args).getD 0
  let base := (← argumentOf? "int" "base" "u32"
    (Json.toIntWithin? 0 (Int.ofNat UInt32.size - 1)) args).getD 10
  match v with
  | .text s =>
    let cs := trimChars s.toList
    let cs :=
      if base = 2 then dropPieces ['0', 'b'] cs.length cs
      else if base = 8 then dropPieces ['0', 'o'] cs.length cs
      else if base = 16 then dropPieces ['0', 'x'] cs.length cs
      else cs
    match readInt? base.toNat cs with
    | some n => return Json.int n
    | none =>
      if cs.contains '.' then
        return Json.int (((readFloat? cs).map clampedInt).getD fallback)
      else return Json.int fallback
  | .number (.int n) =>
    return Json.int (if fitsSigned n then n else clampedInt (Float.ofInt n))
  | .number (.float x) => return Json.int (clampedInt x)
  | _ => throw (.refused "Filter `int` received an unexpected type")

/-- The value as a double. -/
def float : Filter := fun v args => do
  let fallback := (← argumentOf? "float" "default" "f64" Json.toFloat? args).getD 0.0
  match v with
  | .text s => return Json.float ((readFloat? (trimChars s.toList)).getD fallback)
  | .number n => return Json.float n.toFloat
  | _ => throw (.refused "Filter `float` received an unexpected type")

/-! ## Numbers -/

/-- The value without its sign. -/
def abs : Filter := fun v _ =>
  match v with
  | .number (.int n) => .ok (Json.int n.natAbs)
  | .number (.float x) => .ok (Json.float x.abs)
  | _ => .error (.refused "Filter `abs` was used on a value that isn't a number.")

/-- An ending, for one thing or for several. -/
def pluralize : Filter := fun v args => do
  let x ← valueOf "pluralize" "f64" Json.toFloat? v
  let plural := (← textArgument? "pluralize" "plural" args).getD "s"
  let singular := (← textArgument? "pluralize" "singular" args).getD ""
  return .text (if Float.ofScientific 2220446049250313 true 31 < (x.abs - 1.0).abs then plural
    else singular)

/-- The value with some places behind the point. -/
def round : Filter := fun v args => do
  let x ← valueOf "round" "f64" Json.toFloat? v
  let method := (← textArgument? "round" "method" args).getD "common"
  let precision := (← argumentOf? "round" "precision" "i32"
    (Json.toIntWithin? Int32.minValue.toInt Int32.maxValue.toInt) args).getD 0
  let power := Float.ofScientific 1 false (min precision.natAbs 400)
  let scale := if precision < 0 then 1.0 / power else power
  if method = "common" then return Json.float ((scale * x).round / scale)
  else if method = "ceil" then return Json.float ((scale * x).ceil / scale)
  else if method = "floor" then return Json.float ((scale * x).floor / scale)
  else throw (.refused ("Filter `round` received an incorrect value for arg `method`: got `"
    ++ (Json.text method).compactText ++ "`, only common, ceil and floor are allowed"))

/-- A number of hundredths as text. -/
def hundredths (n : Nat) : List Char :=
  Nat.toDigits 10 (n / 100) ++ '.' :: padded '0' 2 (n % 100)

/-- A number of bytes in the greatest unit that it fills; `power` is how many times `1024` it has been divided. -/
def sizeText (units : List String) (bytes : Nat) : List Char :=
  let power := min ((List.range units.length).filter fun p => Nat.pow 1024 p ≤ bytes).length units.length - 1
  let unit := Nat.pow 1024 power
  let number :=
    if bytes % unit = 0 then Nat.toDigits 10 (bytes / unit)
    else
      let scaled := bytes * 100
      let low := scaled / unit
      let left := scaled % unit
      hundredths (if unit < 2 * left || (unit = 2 * left && low % 2 = 1) then low + 1 else low)
  number ++ ' ' :: (units.getD power "").toList

/-- The value as a size in bytes. -/
def filesizeformat : Filter := fun v args => do
  let bytes ← valueOf "filesizeformat" "usize" Json.toNat? v
  let binary := (← flagArgument? "filesizeformat" "binary" args).getD false
  let units := if binary then ["B", "KiB", "MiB", "GiB", "TiB", "PiB", "EiB"]
    else ["B", "kB", "MB", "GB", "TB", "PB", "EB"]
  return ofChars (sizeText units bytes)

/-- The value as a date. -/
def date : Filter := fun v args => do
  let pattern := ((← textArgument? "date" "format" args).getD "%Y-%m-%d")
  let refused {α : Type} (reason : String) : Outcome α := .error (.refused reason)
  if ((Moment.ofSeconds 0).format? pattern.toList).isNone then
    refused ("Invalid date format `" ++ pattern ++ "`")
  let moment ← match v with
    | .number (.int n) => Except.ok (Moment.ofSeconds n)
    | .number (.float x) =>
      refused ("Filter `date` was invoked on a float: " ++ String.ofList (dataFloatText x))
    | .text s =>
      let shown := String.ofList (Json.quoted s)
      if s.toList.contains 'T' then
        match readMoment? s.toList with
        | some m => .ok m
        | none => refused ("Error parsing `" ++ shown ++ "` as rfc3339 date or naive datetime")
      else
        match readDay? s.toList with
        | some m => .ok m
        | none => refused ("Error parsing `" ++ shown ++ "` as YYYY-MM-DD date")
    | _ => refused ("Filter `date` received an incorrect type for arg `value`: got `"
        ++ v.compactText ++ "` but expected i64|u64|String")
  return ofChars ((moment.format? pattern.toList).getD [])

/-! ## Lists -/

/-- The item at a place. -/
def nth : Filter := fun v args => do
  let items ← itemsOf "nth" v
  if items.isEmpty then return .text ""
  match ← natArgument? "nth" "n" args with
  | some n => return items.getD n (.text "")
  | none => throw (.missingKeyArgument "nth" "an" "n")

/-- The first item. -/
def first : Filter := fun v _ => do
  let items ← itemsOf "first" v
  return items.headD (.text "")

/-- The last item. -/
def last : Filter := fun v _ => do
  let items ← itemsOf "last" v
  return items.getLastD (.text "")

/-- The items as one text. -/
def joinItems : Filter := fun v args => do
  let items ← itemsOf "join" v
  let sep ← argumentOf? "truncate" "sep" "String" Json.toText? args
  return ofChars (join (meantText (sep.getD "")) (items.map Json.printed))

/-- The name by which a list is sorted or searched through, or none. -/
def chosenPart (filter : String) (args : Args) : Outcome (List Char) := do
  return ((← textArgument? filter "attribute" args).getD "").toList

/-- A part of an item that has to be there. -/
def neededPart (path : List Char) (v : Json) : Outcome Json :=
  match v.follow path with
  | some part => .ok part
  | none => .error
    (.refused ("attribute '" ++ String.ofList path ++ "' does not reference a field"))

/-- What items are sorted by: a kind of value that the others have to share. -/
inductive SortKey where
  /-- By a truth value. -/
  | flag (value : Bool)
  /-- By a number. -/
  | number (value : Float)
  /-- By a text. -/
  | text (value : String)
  /-- By a length. -/
  | length (value : Nat)

/-- Whether one key may stand in front of another. -/
def SortKey.le : SortKey → SortKey → Bool
  | .flag a, .flag b => !a || b
  | .number x, .number y => x ≤ y
  | .text s, .text t => !decide (t < s)
  | .length m, .length n => m ≤ n
  | _, _ => true

/-- The key of a value, if its kind is that of the model value. -/
def sortKey (model v : Json) : Outcome SortKey :=
  let differs (kind : String) : Outcome SortKey :=
    .error (.refused ("expected " ++ kind ++ " got " ++ v.compactText))
  match model, v with
  | .null, _ => .error (.refused "Null is not a sortable value")
  | .object _, _ => .error (.refused "Object is not a sortable value")
  | .flag _, .flag b => .ok (.flag b)
  | .flag _, _ => differs "bool"
  | .number _, .number n => .ok (.number n.toFloat)
  | .number _, _ => differs "number"
  | .text _, .text s => .ok (.text s)
  | .text _, _ => differs "string"
  | .list _, .list items => .ok (.length items.length)
  | .list _, _ => differs "array"

/-- The items in order. -/
def sort : Filter := fun v args => do
  let items ← itemsOf "sort" v
  match items with
  | [] => return .list []
  | model :: _ =>
    let path ← chosenPart "sort" args
    let model ← neededPart path model
    let keyed ← items.mapM fun item => do
      let part ← neededPart path item
      let key ← sortKey model part
      return (key, item)
    return .list ((keyed.mergeSort fun a b => a.1.le b.1).map Prod.snd)

/-- Whether two values are of one kind. -/
def sameKind : Json → Json → Bool
  | .null, .null => true
  | .flag _, .flag _ => true
  | .number _, .number _ => true
  | .text _, .text _ => true
  | .list _, .list _ => true
  | .object _, .object _ => true
  | _, _ => false

/-- What two values share if they count as one. -/
def uniqueKey (caseMatters : Bool) (v : Json) : Outcome Json :=
  match v with
  | .null => .error (.refused "Null is not a unique value")
  | .list _ => .error (.refused "Array is not a unique value")
  | .object _ => .error (.refused "Object is not a unique value")
  | .number (.float _) => .error (.refused "Floats are not a unique value")
  | .text s => .ok (if caseMatters then v else ofChars (lowerText s.toList))
  | _ => .ok v

/-- The items whose keys have not been seen, in order. -/
def uniqueItems (path : List Char) (caseMatters : Bool) (model : Json) (seen : List Json) :
    List Json → Outcome (List Json)
  | [] => .ok []
  | item :: rest =>
    match item.follow path with
    | none => uniqueItems path caseMatters model seen rest
    | some part =>
      if !sameKind model part then .error (.refused "unique filter can't compare multiple types")
      else do
        let key ← uniqueKey caseMatters part
        let later ← uniqueItems path caseMatters model
          (if seen.any key.same then seen else key :: seen) rest
        return if seen.any key.same then later else item :: later

/-- The items without repeats. -/
def unique : Filter := fun v args => do
  let items ← itemsOf "unique" v
  match items with
  | [] => return .list []
  | model :: _ =>
    let caseMatters := (← flagArgument? "unique" "case_sensitive" args).getD false
    let path ← chosenPart "unique" args
    let model ← neededPart path model
    let _ ← uniqueKey caseMatters model
    return .list (← uniqueItems path caseMatters model [] items)

/-- A place in a list, counted from the end if it is negative. -/
def sliceIndex (length : Nat) (x : Float) : Nat :=
  let place := if 0.0 ≤ x then x else Float.ofNat length + x
  (clampedInt place).toNat

/-- The items between two places. -/
def slice : Filter := fun v args => do
  let items ← itemsOf "slice" v
  if items.isEmpty then return .list []
  let start ← argumentOf? "slice" "start" "f64" Json.toFloat? args
  let finish ← argumentOf? "slice" "end" "f64" Json.toFloat? args
  let start := (start.map (sliceIndex items.length)).getD 0
  let finish := min ((finish.map (sliceIndex items.length)).getD items.length) items.length
  return .list ((items.take finish).drop start)

/-- The items by the value of an attribute. -/
def groupBy : Filter := fun v args => do
  let items ← itemsOf "group_by" v
  if items.isEmpty then return .object []
  let path ← neededAttribute "group_by" args
  return .object (items.foldl (fun groups item =>
    match item.follow path with
    | none | some .null => groups
    | some part =>
      let key := match part with
        | .text s => s
        | _ => part.compactText
      let old := match groups.lookup key with
        | some (.list before) => before
        | _ => []
      Json.assign key (.list (old ++ [item])) groups) [])

/-- The items with an attribute, or with a given value of it. -/
def filterItems : Filter := fun v args => do
  let items ← itemsOf "filter" v
  if items.isEmpty then return .list []
  let path ← neededAttribute "filter" args
  let wanted := (args.lookup "value").getD .null
  return .list (items.filter fun item =>
    let part := (item.follow path).getD .null
    match wanted with
    | .null => !part.same .null
    | _ => part.same wanted)

/-- The values of an attribute of the items. -/
def mapItems : Filter := fun v args => do
  let items ← itemsOf "map" v
  if items.isEmpty then return .list []
  let path ← neededAttribute "map" args
  return .list (items.filterMap (Json.follow path))

/-- The items and one more, or those of another list. -/
def concat : Filter := fun v args => do
  let items ← itemsOf "concat" v
  match args.lookup "with" with
  | none => throw (.missingKeyArgument "concat" "a" "with")
  | some (.list more) => return .list (items ++ more)
  | some other => return .list (items ++ [other])

/-! ## Any value -/

/-- The number of items, pairs or characters. -/
def length : Filter := fun v _ =>
  match v with
  | .list items => .ok (Json.int items.length)
  | .object pairs => .ok (Json.int pairs.length)
  | .text s => .ok (Json.int s.toList.length)
  | _ => .error (.refused
      "Filter `length` was used on a value that isn't an array, an object, or a string.")

/-- The items or characters from last to first. -/
def reverse : Filter := fun v _ =>
  match v with
  | .list items => .ok (.list items.reverse)
  | .text s => .ok (ofChars s.toList.reverse)
  | _ => .error (.refused ("Filter `reverse` received an incorrect type for arg `value`: got `"
      ++ v.compactText ++ "` but expected Array|String"))

/-- The written form of the value in a data file. -/
def jsonEncode : Filter := fun v args => do
  let pretty := (← flagArgument? "json_encode" "pretty" args).getD false
  return .text (if pretty then v.prettyText else v.compactText)

/-- The text that a print tag gives for the value. -/
def asStr : Filter := fun v _ => .ok (ofChars v.printed)

/-- The value of a key, or a value given for its absence. -/
def get : Filter := fun v args => do
  match ← textArgument? "get" "key" args with
  | none => throw (.missingKeyArgument "get" "an" "key")
  | some key =>
    match v with
    | .object pairs =>
      match pairs.lookup key, args.lookup "default" with
      | some found, _ => return found
      | none, some fallback => return fallback
      | none, none => throw (.refused
          ("Filter `get` tried to get key `" ++ key ++ "` but it wasn't found"))
    | _ => throw (.refused "Filter `get` was used on a value that isn't an object")

/-- The filters by name. -/
def all : List (String × Filter) := [
  ("upper", onText "upper" upperText),
  ("lower", onText "lower" lowerText),
  ("trim", onText "trim" trimChars),
  ("trim_start", onText "trim_start" trimStartChars),
  ("trim_end", onText "trim_end" trimEndChars),
  ("trim_start_matches", trimStartMatches),
  ("trim_end_matches", trimEndMatches),
  ("truncate", truncate),
  ("wordcount", wordcount),
  ("replace", replace),
  ("capitalize", onText "capitalize" capitalized),
  ("title", onText "title" titleCase),
  ("linebreaksbr", onText "linebreaksbr" breakLines),
  ("indent", indent),
  ("striptags", onText "striptags" stripTags),
  ("spaceless", onText "spaceless" dropTagGaps),
  ("urlencode", onText "urlencode" (percentEncode keptInAddress)),
  ("urlencode_strict", onText "urlencode_strict" (percentEncode Char.isAlphanum)),
  ("escape", onText "escape_html" (escapeMarkup markupNames)),
  ("escape_xml", onText "escape_html" (escapeMarkup plainMarkupNames)),
  ("slugify", onText "slugify" slug),
  ("addslashes", onText "addslashes" fun cs =>
    cs.flatMap fun c => if c = '\\' || c = '"' || c = '\'' then ['\\', c] else [c]),
  ("split", splitText),
  ("int", int),
  ("float", float),
  ("abs", abs),
  ("pluralize", pluralize),
  ("round", round),
  ("filesizeformat", filesizeformat),
  ("date", date),
  ("nth", nth),
  ("first", first),
  ("last", last),
  ("join", joinItems),
  ("sort", sort),
  ("unique", unique),
  ("slice", slice),
  ("group_by", groupBy),
  ("filter", filterItems),
  ("map", mapItems),
  ("concat", concat),
  ("length", length),
  ("reverse", reverse),
  ("json_encode", jsonEncode),
  ("as_str", asStr),
  ("get", get)]

/-- The filter with a given name. -/
def find? (name : String) : Option Filter := all.lookup name

end Filter

end TraceDiagram.Template
