import TraceDiagram.Template.Words

/-! # Reading expressions of templates

* **`ExprReaders`** the steps that read the kinds of expressions that contain one another.
* **`ExprReaders.next`** reads one level with steps that read the levels below.
* **`exprReaders`** ties the levels together, for expressions nested up to a depth.
-/

namespace TraceDiagram.Template

open Text Text.Scan Words

/-- Joins operands from left to right; operators of the tight kind go first. -/
def climb {ω α : Type} (tight : ω → Bool) (unite : ω → α → α → α) (first : α)
    (rest : List (ω × α)) : α :=
  let close : Option (α × ω) → α → α := fun
    | none, x => x
    | some (left, op), x => unite op left x
  let step : Option (α × ω) × α → ω × α → Option (α × ω) × α := fun (outer, x) (op, y) =>
    if tight op then (outer, unite op x y) else (some (close outer x, op), y)
  let (outer, x) := rest.foldl step (none, first)
  close outer x

namespace MathOp

/-- Whether the operator goes before sums and differences. -/
def isTight : MathOp → Bool
  | .add | .sub => false
  | .mul | .div | .modulo => true

/-- Reads the operator. -/
def scan : Scan MathOp := firstOf [
  exactly "+" *> pure .add, exactly "-" *> pure .sub, exactly "*" *> pure .mul,
  exactly "/" *> pure .div, exactly "%" *> pure .modulo]

end MathOp

namespace LogicOp

/-- Reads a comparison. -/
def scanComparison : Scan LogicOp := firstOf [
  exactly "<=" *> pure .atMost, exactly ">=" *> pure .atLeast, exactly ">" *> pure .more,
  exactly "<" *> pure .less, exactly "==" *> pure .equal, exactly "!=" *> pure .unequal]

/-- Reads a word that joins conditions, and the blank behind it. -/
def scanJunction : Scan LogicOp := firstOf [
  exactly "or" *> char isGap *> pure .either, exactly "and" *> char isGap *> pure .both]

end LogicOp

/-- Reads the word for negation, and the blank behind it. -/
def negation : Scan Unit := exactly "not" *> char isGap *> pure ()

/-- The steps that read expressions that contain one another. -/
structure ExprReaders where
  /-- A variable and the parts of it that are meant, as written. -/
  path : Scan (List Char)
  /-- Terms joined by operators on numbers. -/
  basic : Scan Term
  /-- One condition. -/
  condition : Scan Expr
  /-- Conditions joined by `and` and `or`. -/
  logic : Scan Expr
  /-- What an argument or a variable may be given: conditions or a list. -/
  value : Scan Expr

/-- Sets a named argument; one that is given twice has its last value. -/
def setArgument (arg : String × Expr) : List (String × Expr) → List (String × Expr)
  | [] => [arg]
  | old :: rest => if old.1 = arg.1 then arg :: rest else old :: setArgument arg rest

/-- Reads a truth value. -/
def truthValue : Scan Bool := firstOf [
  exactly "true" *> pure true, exactly "false" *> pure false,
  exactly "True" *> pure true, exactly "False" *> pure false]

namespace ExprReaders

variable (r : ExprReaders)

/-! ## Variables -/

/-- An index in brackets, as written. -/
def bracket : Scan (List Char) := do
  exactly "["
  let inner ← firstOf [
    (fun p : Bool × List Char => if p.1 then '-' :: p.2 else p.2) <$> wholeText,
    (fun p : Char × List Char => p.1 :: p.2 ++ [p.1]) <$> quoted,
    r.path]
  exactly "]"
  return '[' :: inner ++ [']']

/-- A variable, with the parts behind points and in brackets, as written. -/
def pathText : Scan (List Char) := do
  let start ← dottedName
  let parts ← many (dottedPart <|> r.bracket)
  return start ++ parts.flatten

/-- A variable as a term. -/
def pathTerm : Scan Term := (fun cs => .path (String.ofList cs)) <$> r.pathText

/-! ## Calls -/

/-- A named argument. -/
def argument : Scan (String × Expr) := do
  let name ← identifier
  sign "="
  let v ← lexeme r.value
  return (name, v)

/-- Named arguments in parentheses. -/
def arguments : Scan (List (String × Expr)) := do
  sign "("
  let args ← optional (separated "," r.argument <* optional (sign ","))
  sign ")"
  return (args.getD []).foldl (fun acc arg => setArgument arg acc) []

/-- A function with its arguments. -/
def functionCall : Scan Call := do
  let name ← identifier
  let args ← r.arguments
  return .mk name args

/-- What stands behind the bar of a filter: a name with its arguments, or a name alone. -/
def filterCall : Scan Call := r.functionCall <|> (fun name => Call.mk name []) <$> identifier

/-- A filter. -/
def filter : Scan Call := sign "|" *> lexeme r.filterCall

/-- A test and its arguments. -/
def testCall : Scan (String × List Expr) := do
  let name ← identifier
  let args ← optional (sign "(" *> separated "," r.value <* sign ")")
  return (name, args.getD [])

/-- A test of a variable. -/
def test (negated : Bool) : Scan Term := do
  let path ← r.pathText
  sign "is"
  sign (if negated then "not" else "")
  let (name, args) ← lexeme r.testCall
  return .test (String.ofList path) negated name args

/-- A macro with its namespace and arguments. -/
def macroCall : Scan Term := do
  let space ← identifier
  sign "::"
  let name ← lexeme identifier
  let args ← r.arguments
  return .macroCall space name args

/-! ## Operands -/

/-- A term by itself. -/
def basicTerm : Scan Term := firstOf [
  Term.flag <$> truthValue, r.test true, r.test false, r.macroCall, Term.call <$> r.functionCall,
  r.pathTerm, Term.float <$> fraction, Term.int <$> wholeNumber]

/-- A term by itself or several in parentheses. -/
def basicOperand : Scan Term :=
  (exactly "(" *> lexeme r.basic <* sign ")") <|> r.basicTerm

/-- Terms joined by operators on numbers. -/
def basicTerms : Scan Term := do
  let first ← r.basicOperand
  let rest ← many (Prod.mk <$> lexeme MathOp.scan <*> lexeme r.basicOperand)
  return climb MathOp.isTight (fun op x y => .math op (Expr.ofTerm x) (Expr.ofTerm y)) first rest

/-- Joined terms and the filters they go through. -/
def filteredBasic : Scan Expr := do
  let term ← r.basicTerms
  let filters ← many r.filter
  return .mk term false filters

/-- A term that may be written behind another. -/
def concatItem : Scan Term := firstOf [
  Term.call <$> r.functionCall, Term.float <$> fraction, Term.int <$> wholeNumber,
  Term.text <$> quotedText, r.pathTerm]

/-- Terms written one after the other. -/
def concatenation : Scan Term := do
  let first ← r.concatItem
  let second ← sign "~" *> lexeme r.concatItem
  let rest ← many (sign "~" *> lexeme r.concatItem)
  return .concat (first :: second :: rest)

/-- A text, or terms written one after the other, and the filters they go through. -/
def filteredText : Scan Expr := do
  let term ← r.concatenation <|> Term.text <$> quotedText
  let filters ← many r.filter
  return .mk term false filters

/-- A list and the filters it goes through. -/
def filteredList : Scan Expr := do
  exactly "["
  let items ← many (lexeme r.condition <* sign ",")
  let last ← optional (lexeme r.condition)
  sign "]"
  let filters ← many r.filter
  return .mk (.list (items ++ last.toList)) false filters

/-! ## Conditions -/

/-- Filtered terms joined by operators on numbers. -/
def comparand : Scan Expr := do
  let first ← r.filteredBasic
  let rest ← many (Prod.mk <$> lexeme MathOp.scan <*> lexeme r.filteredBasic)
  return climb MathOp.isTight (fun op x y => Expr.ofTerm (.math op x y)) first rest

/-- One side of a comparison. -/
def side : Scan Expr := r.filteredText <|> r.comparand

/-- A comparison, or one side alone. -/
def comparison : Scan Expr := do
  let left ← r.side
  let right ← optional (Prod.mk <$> lexeme LogicOp.scanComparison <*> lexeme r.side)
  return match right with
    | none => left
    | some (op, x) => Expr.ofTerm (.logic op left x)

/-- The question whether a container holds an item. -/
def membership : Scan Expr := do
  let item ← r.filteredText <|> r.filteredBasic
  let negated ← present (lexeme negation)
  sign "in"
  let container ← lexeme (firstOf [r.filteredText, r.filteredList, Expr.ofTerm <$> r.pathTerm])
  return Expr.ofTerm (.isIn negated item container)

/-- One condition; the word for negation in front says whether it is negated. -/
def oneCondition : Scan Expr := do
  let negated ← present negation
  let e ← lexeme (firstOf [r.membership, r.comparison, exactly "(" *> lexeme r.logic <* sign ")"])
  return e.setNegated negated

/-- Conditions joined by `and` and `or`, of which `and` goes first. -/
def conditions : Scan Expr := do
  let first ← r.oneCondition
  let rest ← many (Prod.mk <$> lexeme LogicOp.scanJunction <*> lexeme r.oneCondition)
  return climb (· = .both) (fun op x y => Expr.ofTerm (.logic op x y)) first rest

/-- The steps for one level more. -/
def next : ExprReaders where
  path := r.pathText
  basic := r.basicTerms
  condition := r.oneCondition
  logic := r.conditions
  value := r.conditions <|> r.filteredList

/-- The steps that read nothing. -/
def nothing : ExprReaders where
  path := failure
  basic := failure
  condition := failure
  logic := failure
  value := failure

end ExprReaders

/-- The steps that read expressions nested up to a depth. -/
def exprReaders : Nat → ExprReaders
  | 0 => ExprReaders.nothing
  | depth + 1 => (exprReaders depth).next

end TraceDiagram.Template
