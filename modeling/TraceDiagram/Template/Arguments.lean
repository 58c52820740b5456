import TraceDiagram.Template.Fault

/-! # Arguments of filters, tests and functions

* **`Args`** named arguments that have been worked out.
* **`Json.toText?`**, **`Json.toNat?`**, … a value of one kind, if it is of that kind.
* **`valueOf`** the value that a filter is put on, **`argumentOf?`** an argument of it: refused if it is of the
  wrong kind.
-/

namespace TraceDiagram

namespace Json

/-- The text, if the value is one. -/
def toText? : Json → Option String
  | .text s => some s
  | _ => none

/-- The truth value, if the value is one. -/
def toFlag? : Json → Option Bool
  | .flag b => some b
  | _ => none

/-- The whole number, if the value is one and lies within the bounds. -/
def toIntWithin? (least greatest : Int) : Json → Option Int
  | .number (.int n) => if least ≤ n ∧ n ≤ greatest then some n else none
  | _ => none

/-- The natural number of 64 bits, if the value is one. -/
def toNat? (v : Json) : Option Nat :=
  (v.toIntWithin? 0 (Int.ofNat UInt64.size - 1)).map Int.toNat

/-- The number as a double, if the value is a number. -/
def toFloat? : Json → Option Float
  | .number n => some n.toFloat
  | _ => none

/-- The items, if the value is a list. -/
def toItems? : Json → Option (List Json)
  | .list items => some items
  | _ => none

end Json

namespace Template

/-- Named arguments that have been worked out. -/
abbrev Args := List (String × Json)

/-- The outcome of a filter, a test or a function. -/
abbrev Outcome := Except CallFault

/-- The value that a filter is put on, if `read` takes it. -/
def valueOf {α : Type} (filter expected : String) (read : Json → Option α) (v : Json) : Outcome α :=
  match read v with
  | some a => .ok a
  | none => .error (.wrongValue filter v expected)

/-- The text that a filter is put on. -/
def textOf (filter : String) (v : Json) : Outcome String := valueOf filter "String" Json.toText? v

/-- The items of the list that a filter is put on. -/
def itemsOf (filter : String) (v : Json) : Outcome (List Json) :=
  valueOf filter "Vec<Value>" Json.toItems? v

/-- An argument of a filter, if it is given; `read` has to take it. -/
def argumentOf? {α : Type} (filter name expected : String) (read : Json → Option α) (args : Args) :
    Outcome (Option α) :=
  match args.lookup name with
  | none => .ok none
  | some v =>
    match read v with
    | some a => .ok (some a)
    | none => .error (.wrongArgument filter name v expected)

/-- An argument of a filter that is a text. -/
def textArgument? (filter name : String) (args : Args) : Outcome (Option String) :=
  argumentOf? filter name "String" Json.toText? args

/-- An argument of a filter that is a truth value. -/
def flagArgument? (filter name : String) (args : Args) : Outcome (Option Bool) :=
  argumentOf? filter name "bool" Json.toFlag? args

/-- An argument of a filter that is a natural number. -/
def natArgument? (filter name : String) (args : Args) : Outcome (Option Nat) :=
  argumentOf? filter name "usize" Json.toNat? args

/-- A text argument that has to be given. -/
def neededText (filter name : String) (args : Args) : Outcome String := do
  match ← textArgument? filter name args with
  | some s => return s
  | none => throw (.missingArgument filter name)

/-- The name of the attribute that a filter on lists goes by. -/
def neededAttribute (filter : String) (args : Args) : Outcome (List Char) := do
  match ← textArgument? filter "attribute" args with
  | some s => return s.toList
  | none => throw (.missingKeyArgument filter "an" "attribute")

end Template

end TraceDiagram
