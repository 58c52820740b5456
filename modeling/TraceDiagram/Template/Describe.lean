import TraceDiagram.Template.Syntax

/-! # Operands written out

Some messages show an operand or a value part by part.

* **`Expr.describe`** the parts of an operand; **`Json.describe`** those of a value.
-/

namespace TraceDiagram

mutual

/-- The parts of a value. -/
def Json.describe : Json → String
  | .null => "Null"
  | .flag b => "Bool(" ++ toString b ++ ")"
  | .number n => "Number(" ++ String.ofList n.dataText ++ ")"
  | .text s => "String(" ++ String.ofList (Json.quoted s) ++ ")"
  | .list items => "Array [" ++ Json.describeItems items ++ "]"
  | .object pairs => "Object \x7b" ++ Json.describePairs pairs ++ "\x7d"

/-- The parts of the items of a list. -/
def Json.describeItems : List Json → String
  | [] => ""
  | [x] => x.describe
  | x :: y :: rest => x.describe ++ ", " ++ Json.describeItems (y :: rest)

/-- The parts of the pairs of an object. -/
def Json.describePairs : List (String × Json) → String
  | [] => ""
  | [(k, x)] => String.ofList (Json.quoted k) ++ ": " ++ x.describe
  | (k, x) :: p :: rest =>
    String.ofList (Json.quoted k) ++ ": " ++ x.describe ++ ", " ++ Json.describePairs (p :: rest)

end

namespace Template

/-- The name of an operator on numbers. -/
def MathOp.name : MathOp → String
  | .add => "Add"
  | .sub => "Sub"
  | .mul => "Mul"
  | .div => "Div"
  | .modulo => "Modulo"

/-- The name of an operator that gives a truth value. -/
def LogicOp.name : LogicOp → String
  | .atLeast => "Gte"
  | .atMost => "Lte"
  | .more => "Gt"
  | .less => "Lt"
  | .equal => "Eq"
  | .unequal => "NotEq"
  | .both => "And"
  | .either => "Or"

/-- A text in quotes, as messages show it. -/
def shownText (s : String) : String := String.ofList (Json.quoted s)

/-- A record with its fields, as messages show it. -/
def shownRecord (name : String) (fields : List (String × String)) : String :=
  name ++ " \x7b " ++ ", ".intercalate (fields.map fun f => f.1 ++ ": " ++ f.2) ++ " \x7d"

mutual

/-- The parts of an operand. -/
def Expr.describe : Expr → String
  | .mk term negated filters => shownRecord "Expr" [
      ("val", term.describe), ("negated", toString negated),
      ("filters", "[" ++ describeCalls filters ++ "]")]

/-- The parts of a term. -/
def Term.describe : Term → String
  | .text s => "String(" ++ shownText s ++ ")"
  | .int n => "Int(" ++ toString n ++ ")"
  | .float x => "Float(" ++ String.ofList (dataFloatText x) ++ ")"
  | .flag b => "Bool(" ++ toString b ++ ")"
  | .path p => "Ident(" ++ shownText p ++ ")"
  | .math op l r =>
    "Math(" ++ shownRecord "MathExpr"
      [("lhs", l.describe), ("rhs", r.describe), ("operator", op.name)] ++ ")"
  | .logic op l r =>
    "Logic(" ++ shownRecord "LogicExpr"
      [("lhs", l.describe), ("rhs", r.describe), ("operator", op.name)] ++ ")"
  | .isIn negated item container =>
    "In(" ++ shownRecord "In"
      [("lhs", item.describe), ("rhs", container.describe), ("negated", toString negated)] ++ ")"
  | .test path negated name args =>
    "Test(" ++ shownRecord "Test" [
      ("ident", shownText path), ("negated", toString negated), ("name", shownText name),
      ("args", "[" ++ describeExprs args ++ "]")] ++ ")"
  | .call c => "FunctionCall(" ++ c.describe ++ ")"
  | .macroCall space name args =>
    "MacroCall(" ++ shownRecord "MacroCall" [
      ("namespace", shownText space), ("name", shownText name),
      ("args", "\x7b" ++ describeArgs args ++ "\x7d")] ++ ")"
  | .concat items =>
    "StringConcat(" ++ shownRecord "StringConcat" [("values", "[" ++ describeTerms items ++ "]")]
      ++ ")"
  | .list items => "Array([" ++ describeExprs items ++ "])"

/-- The parts of a call. -/
def Call.describe : Call → String
  | .mk name args => shownRecord "FunctionCall"
      [("name", shownText name), ("args", "\x7b" ++ describeArgs args ++ "\x7d")]

/-- The parts of some calls. -/
def describeCalls : List Call → String
  | [] => ""
  | [c] => c.describe
  | c :: d :: rest => c.describe ++ ", " ++ describeCalls (d :: rest)

/-- The parts of some operands. -/
def describeExprs : List Expr → String
  | [] => ""
  | [e] => e.describe
  | e :: f :: rest => e.describe ++ ", " ++ describeExprs (f :: rest)

/-- The parts of some terms. -/
def describeTerms : List Term → String
  | [] => ""
  | [t] => t.describe
  | t :: u :: rest => t.describe ++ ", " ++ describeTerms (u :: rest)

/-- The parts of some named arguments. -/
def describeArgs : List (String × Expr) → String
  | [] => ""
  | [(k, e)] => shownText k ++ ": " ++ e.describe
  | (k, e) :: p :: rest => shownText k ++ ": " ++ e.describe ++ ", " ++ describeArgs (p :: rest)

end

end Template

end TraceDiagram
