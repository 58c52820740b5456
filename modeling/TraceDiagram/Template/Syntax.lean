import TraceDiagram.Json

/-! # Templates as trees

* **`Expr`** an operand: a term, the filters that it goes through and whether it is negated.
* **`Term`** what an operand is made of.
* **`Call`** the use of a filter or a function with its named arguments.
* **`Node`** a piece of a template: running text, an expression to print, a tag with its body.
-/

namespace TraceDiagram.Template

/-- The operators on numbers. -/
inductive MathOp where
  /-- Sum. -/
  | add
  /-- Difference. -/
  | sub
  /-- Product. -/
  | mul
  /-- Quotient. -/
  | div
  /-- Remainder. -/
  | modulo
  deriving DecidableEq, Repr

/-- The operators that give a truth value. -/
inductive LogicOp where
  /-- At least. -/
  | atLeast
  /-- At most. -/
  | atMost
  /-- More. -/
  | more
  /-- Less. -/
  | less
  /-- The same. -/
  | equal
  /-- Not the same. -/
  | unequal
  /-- Both. -/
  | both
  /-- At least one. -/
  | either
  deriving DecidableEq, Repr

mutual

/-- An operand. -/
inductive Expr where
  /-- A term, whether it is negated, and the filters it goes through, first to last. -/
  | mk (term : Term) (negated : Bool) (filters : List Call)

/-- What an operand is made of. -/
inductive Term where
  /-- A text in quotes. -/
  | text (value : String)
  /-- A whole number. -/
  | int (value : Int)
  /-- A number with a fractional part. -/
  | float (value : Float)
  /-- A truth value. -/
  | flag (value : Bool)
  /-- A variable, with the parts of it that are meant. -/
  | path (name : String)
  /-- Two numbers and an operator. -/
  | math (op : MathOp) (left right : Expr)
  /-- Two operands and an operator that gives a truth value. -/
  | logic (op : LogicOp) (left right : Expr)
  /-- Whether a container holds an item. -/
  | isIn (negated : Bool) (item container : Expr)
  /-- A test of a variable. -/
  | test (path : String) (negated : Bool) (name : String) (args : List Expr)
  /-- A call of a function. -/
  | call (call : Call)
  /-- A call of a macro of a namespace. -/
  | macroCall (space name : String) (args : List (String × Expr))
  /-- Several terms, written one after the other. -/
  | concat (items : List Term)
  /-- A list. -/
  | list (items : List Expr)

/-- The use of a filter or a function. -/
inductive Call where
  /-- Its name and its named arguments. -/
  | mk (name : String) (args : List (String × Expr))

end

namespace Call

/-- The name of what is called. -/
def name : Call → String
  | .mk name _ => name

/-- The named arguments. -/
def args : Call → List (String × Expr)
  | .mk _ args => args

end Call

namespace Expr

/-- A term by itself. -/
def ofTerm (t : Term) : Expr := .mk t false []

/-- The term. -/
def term : Expr → Term
  | .mk t _ _ => t

/-- Whether it is negated. -/
def negated : Expr → Bool
  | .mk _ n _ => n

/-- The filters. -/
def filters : Expr → List Call
  | .mk _ _ fs => fs

/-- The operand, negated or not as given. -/
def setNegated (n : Bool) : Expr → Expr
  | .mk t _ fs => .mk t n fs

end Expr

/-- Whether a tag takes away the white space on its two sides. -/
structure Trim where
  /-- In front of the tag. -/
  left : Bool
  /-- Behind the tag. -/
  right : Bool
  deriving DecidableEq, Repr

/-- A piece of a template. -/
inductive Node where
  /-- Running text. -/
  | text (value : String)
  /-- Text in which nothing is read. -/
  | raw (openTag : Trim) (value : String) (closeTag : Trim)
  /-- A note that prints nothing. -/
  | comment (tag : Trim)
  /-- An expression to print. -/
  | print (tag : Trim) (expr : Expr)
  /-- Gives a variable a value, in the current frame or in the one around all loops. -/
  | assign (tag : Trim) (everywhere : Bool) (name : String) (value : Expr)
  /-- The body, put through a filter. -/
  | filtered (openTag : Trim) (filter : Call) (body : List Node) (closeTag : Trim)
  /-- The first branch whose condition is true, or the last one. -/
  | cond (branches : List (Trim × Expr × List Node)) (otherwise : Option (Trim × List Node))
      (closeTag : Trim)
  /-- The body for each item of a container, or another body if it has none. -/
  | each (openTag : Trim) (key : Option String) (value : String) (container : Expr)
      (body : List Node) (ifEmpty : Option (List Node)) (closeTag : Trim)
  /-- Leaves the loop. -/
  | leave (tag : Trim)
  /-- Goes on with the next item of the loop. -/
  | next (tag : Trim)
  /-- A part that an inheriting template may replace. -/
  | block (openTag : Trim) (name : String) (body : List Node) (closeTag : Trim)
  /-- The replaced part. -/
  | inherited
  /-- The first of some templates that there is. -/
  | embed (tag : Trim) (names : List String) (optional : Bool)
  /-- The template that this one inherits from. -/
  | inherit (tag : Trim) (name : String)
  /-- Makes the macros of a template known under a namespace. -/
  | useMacros (tag : Trim) (template space : String)
  /-- Defines a macro with its parameters and their default values. -/
  | macroDef (openTag : Trim) (name : String) (params : List (String × Option Expr))
      (body : List Node) (closeTag : Trim)

end TraceDiagram.Template
