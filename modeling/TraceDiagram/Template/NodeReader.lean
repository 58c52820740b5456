import TraceDiagram.Template.ExprReader

/-! # Reading templates

* **`Place`** where a piece of a template stands; it decides which tags are allowed.
* **`NodeReaders`** the steps that read the pieces of one level; **`nodeReaders`** ties the levels together.
* **`readNodes`** reads a whole template.
-/

namespace TraceDiagram.Template

open Text Text.Scan Words

/-- Where a piece of a template stands. -/
inductive Place where
  /-- Outside of blocks, macros, loops and filtered sections. -/
  | outside
  /-- In a macro. -/
  | macroBody
  /-- In a block. -/
  | blockBody
  /-- In a loop. -/
  | loopBody
  /-- In a filtered section. -/
  | filterBody
  deriving DecidableEq, Repr

namespace Place

/-- Whether blocks may stand here. -/
def allowsBlocks : Place → Bool
  | .outside | .blockBody | .filterBody => true
  | .macroBody | .loopBody => false

end Place

/-! ## Tags -/

/-- A brace and another character, as the start of a tag. -/
def opener (second : Char) : List Char := ['\x7b', second]

/-- A character and a brace, as the end of a tag. -/
def closer (first : Char) : List Char := [first, '\x7d']

/-- Reads the given start of a tag, which may take away the blanks in front. -/
def tagStart (second : Char) : Scan Bool :=
  (exactly (String.ofList (opener second ++ ['-'])) *> pure true)
  <|> (exactly (String.ofList (opener second)) *> pure false)

/-- Reads the given end of a tag, which may take away the blanks behind. -/
def tagEnd (first : Char) : Scan Bool :=
  (exactly (String.ofList ('-' :: closer first)) *> pure true)
  <|> (exactly (String.ofList (closer first)) *> pure false)

/-- Reads a tag with what stands in it. -/
def tag {α : Type} (body : Scan α) : Scan (Trim × α) := do
  let left ← tagStart '%'
  let a ← lexeme body
  let right ← lexeme (tagEnd '%')
  return (⟨left, right⟩, a)

/-- Reads a tag that is one word. -/
def wordTag (word : String) : Scan Trim := Prod.fst <$> tag (exactly word)

/-- Reads a tag that is one word, with a name behind it or not. -/
def endTag (word : String) : Scan Trim :=
  Prod.fst <$> tag (exactly word *> optional (lexeme identifier))

/-- Reads a print tag. -/
def printTag {α : Type} (body : Scan α) : Scan (Trim × α) := do
  let left ← tagStart '\x7b'
  let a ← lexeme body
  let right ← lexeme (tagEnd '\x7d')
  return (⟨left, right⟩, a)

/-! ## Running text, comments and raw text -/

/-- Whether a tag starts here. -/
def startsTag : List Char → Bool
  | '\x7b' :: c :: _ => c = '\x7b' || c = '%' || c = '#'
  | _ => false

/-- The text up to the next tag, and the rest. -/
def untilTag : List Char → List Char × List Char
  | [] => ([], [])
  | c :: cs =>
    if startsTag (c :: cs) then ([], c :: cs)
    else let (text, rest) := untilTag cs; (c :: text, rest)

/-- Reads running text, at least one character. -/
def runningText : Scan Node := fun cs =>
  match untilTag cs with
  | ([], _) => none
  | (c :: text, rest) => some (.text (String.ofList (c :: text)), rest)

/-- Reads up to where a step succeeds, and with that step. -/
def upTo {α : Type} (p : Scan α) : List Char → Option ((List Char × α) × List Char)
  | [] =>
    match p [] with
    | none => none
    | some (a, rest) => some (([], a), rest)
  | c :: cs =>
    match p (c :: cs) with
    | some (a, rest) => some (([], a), rest)
    | none =>
      match upTo p cs with
      | none => none
      | some ((text, a), rest) => some ((c :: text, a), rest)

/-- Reads a comment. -/
def comment : Scan Node := do
  let left ← tagStart '#'
  let (_, right) ← (upTo (tagEnd '#') : Scan (List Char × Bool))
  return .comment ⟨left, right⟩

/-- Reads raw text and the tags around it. -/
def rawText : Scan Node := do
  let openTag ← wordTag "raw"
  let (text, closeTag) ← (upTo (wordTag "endraw") : Scan (List Char × Trim))
  return .raw openTag (String.ofList text) closeTag

/-! ## Tags without a body -/

/-- Reads the names of templates in brackets. -/
def nameList : Scan (List String) := do
  exactly "["
  let names ← many (lexeme quotedText <* sign ",")
  let last ← optional (lexeme quotedText)
  sign "]"
  return names ++ last.toList

/-- Reads a tag that embeds a template. -/
def embedTag : Scan Node := do
  let (trim, names, ignoring) ← tag do
    exactly "include"
    someGap
    let names ← nameList <|> (fun name => [name]) <$> quotedText
    let ignoring ← present (sign "ignore" *> sign "missing")
    return (names, ignoring)
  return .embed trim names ignoring

/-- Reads a tag that names the template to inherit from. -/
def inheritTag : Scan Node := do
  let (trim, name) ← tag (exactly "extends" *> someGap *> quotedText)
  return .inherit trim name

/-- Reads a tag that makes macros known. -/
def useMacrosTag : Scan Node := do
  let (trim, template, space) ← tag do
    exactly "import"
    someGap
    let template ← quotedText
    someGap
    exactly "as"
    someGap
    let space ← identifier
    return (template, space)
  return .useMacros trim template space

/-- Reads the value that a macro's parameter has by default. -/
def defaultValue : Scan Expr := firstOf [
  (fun b => Expr.ofTerm (.flag b)) <$> truthValue,
  (fun s => Expr.ofTerm (.text s)) <$> quotedText,
  (fun x => Expr.ofTerm (.float x)) <$> fraction,
  (fun n => Expr.ofTerm (.int n)) <$> wholeNumber]

/-- Reads a parameter of a macro. -/
def macroParam : Scan (String × Option Expr) := do
  let name ← identifier
  let value ← optional (exactly "=" *> defaultValue)
  return (name, value)

/-- Reads the head of a macro: its name and its parameters. -/
def macroHead : Scan (String × List (String × Option Expr)) := do
  exactly "macro"
  someGap
  let name ← identifier
  sign "("
  let params ← optional (separated "," macroParam)
  sign ")"
  return (name, params.getD [])

namespace ExprReaders

variable (r : ExprReaders)

/-- Reads a print tag with an expression in it. -/
def printNode : Scan Node := (fun p => .print p.1 p.2) <$> printTag r.value

/-- Reads the tag that gives a variable a value; `word` says in which frame. -/
def assignTag (word : String) (everywhere : Bool) : Scan Node := do
  let (trim, name, value) ← tag do
    exactly word
    let name ← lexeme identifier
    sign "="
    let value ← lexeme r.value
    return (name, value)
  return .assign trim everywhere name value

/-- Reads the head of a loop: the names for an item and the container. -/
def loopHead : Scan (Option String × String × Expr) := do
  exactly "for"
  let first ← lexeme identifier
  let second ← optional (sign "," *> lexeme identifier)
  sign "in"
  let container ← lexeme (r.filteredBasic <|> r.filteredList)
  return match second with
    | none => (none, first, container)
    | some value => (some first, value, container)

end ExprReaders

/-- Reads the tag that stands for the replaced part of a block. -/
def inheritedTag : Scan Node := do
  let _ ← tagStart '\x7b'
  sign "super()"
  let _ ← lexeme (tagEnd '\x7d')
  return .inherited

/-! ## Tags with a body -/

/-- The steps that read the pieces of one level: expressions, and bodies at a place. -/
structure NodeReaders where
  /-- Expressions. -/
  expr : ExprReaders
  /-- The pieces of a body. -/
  body : Place → Scan (List Node)

namespace NodeReaders

variable (r : NodeReaders)

/-- Reads conditions and the bodies that belong to them. -/
def condNode (place : Place) : Scan Node := do
  let (trim, test) ← tag (exactly "if" *> lexeme r.expr.logic)
  let body ← r.body place
  let more ← many do
    let (trim, test) ← tag (exactly "elif" *> lexeme r.expr.logic)
    let body ← r.body place
    return (trim, test, body)
  let otherwise ← optional (Prod.mk <$> wordTag "else" <*> r.body place)
  let closeTag ← wordTag "endif"
  return .cond ((trim, test, body) :: more) otherwise closeTag

/-- Reads a loop. -/
def loopNode : Scan Node := do
  let (openTag, key, value, container) ← tag r.expr.loopHead
  let body ← r.body .loopBody
  let ifEmpty ← optional (wordTag "else" *> r.body .loopBody)
  let closeTag ← wordTag "endfor"
  return .each openTag key value container body ifEmpty closeTag

/-- Reads a section that goes through a filter. -/
def filteredNode : Scan Node := do
  let (openTag, filter) ← tag (exactly "filter" *> lexeme r.expr.filterCall)
  let body ← r.body .filterBody
  let closeTag ← wordTag "endfilter"
  return .filtered openTag filter body closeTag

/-- Reads a block. -/
def blockNode : Scan Node := do
  let (openTag, name) ← tag (exactly "block" *> someGap *> identifier)
  let body ← r.body .blockBody
  let closeTag ← endTag "endblock"
  return .block openTag name body closeTag

/-- Reads the definition of a macro. -/
def macroNode : Scan Node := do
  let (openTag, name, params) ← tag macroHead
  let body ← r.body .macroBody
  let closeTag ← endTag "endmacro"
  return .macroDef openTag name params body closeTag

/-- Reads what may stand in a block only. -/
def blockOnly : Scan Node := inheritedTag

/-- Reads what may stand in a loop only. -/
def loopOnly : Scan Node := (Node.leave <$> wordTag "break") <|> (Node.next <$> wordTag "continue")

/-- Reads one piece at a place. -/
def node (place : Place) : Scan Node := firstOf [
  embedTag,
  if place = .blockBody then blockOnly else failure,
  r.expr.printNode,
  comment,
  r.expr.assignTag "set" false,
  r.expr.assignTag "set_global" true,
  if place.allowsBlocks then r.blockNode else failure,
  r.condNode place,
  r.loopNode,
  if place = .loopBody then loopOnly else failure,
  r.filteredNode,
  rawText,
  runningText]

/-- Reads one piece that stands in no other. -/
def outerNode : Scan Node := firstOf [useMacrosTag, r.macroNode, r.node .outside]

/-- The steps for one level more. -/
def next : NodeReaders where
  expr := r.expr
  body place := many (r.node place)

end NodeReaders

/-- The steps that read pieces nested up to a depth. -/
def nodeReaders (expr : ExprReaders) : Nat → NodeReaders
  | 0 => { expr := expr, body := fun _ => failure }
  | depth + 1 => (nodeReaders expr depth).next

/-- Reads a whole template: comments, the template to inherit from, then anything else. -/
def wholeTemplate (r : NodeReaders) : Scan (List Node) := do
  let comments ← many comment
  let parent ← optional inheritTag
  let body ← many r.outerNode
  atEnd
  return comments ++ parent.toList ++ body

/-- Reads a whole template from its text. -/
def readNodes (text : List Char) : Option (List Node) :=
  let depth := text.length + 1
  (wholeTemplate (nodeReaders (exprReaders depth) depth) text).map Prod.fst

end TraceDiagram.Template
