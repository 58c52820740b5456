import TraceDiagram.Pattern
import TraceDiagram.Template.Arguments
import TraceDiagram.Template.Arithmetic

/-! # Tests of variables

* **`VariableTest`** a function from the value of a variable, if it has one, and arguments to an answer.
* **`VariableTest.find?`** the test with a given name.
-/

namespace TraceDiagram.Template

open Text

/-- A function from the value of a variable, if it has one, and arguments to an answer. -/
abbrev VariableTest := Option Json → List Json → Outcome Bool

namespace VariableTest

/-- Refuses more arguments than a test takes. -/
def atMost (test : String) (most : Nat) (args : List Json) : Outcome Unit :=
  if most < args.length then
    .error (if most = 0 then .testTakesNone test else .testTakesFewer test args.length most)
  else .ok ()

/-- The value of the variable, which has to be there. -/
def defined (test : String) (v : Option Json) : Outcome Json :=
  match v with
  | some v => .ok v
  | none => .error (.testUndefined test)

/-- A text that has to stand in a place. -/
def needText (test place : String) (v : Option Json) : Outcome String :=
  match v.bind Json.toText? with
  | some s => .ok s
  | none => .error (.testKind test place "string")

/-- A number that has to stand in a place. -/
def needNumber (test place : String) (v : Option Json) : Outcome Float :=
  match v.bind Json.toFloat? with
  | some x => .ok x
  | none => .error (.testKind test place "number")

/-- A test of the kind of a value. -/
def kind (test : String) (p : Json → Bool) : VariableTest := fun v args => do
  atMost test 0 args
  return p (← defined test v)

/-- A test of a text against a text. -/
def textual (test : String) (p : List Char → List Char → Bool) : VariableTest := fun v args => do
  atMost test 1 args
  let _ ← defined test v
  let s ← needText test "on a variable" v
  let t ← needText test "with a parameter" args.head?
  return p s.toList t.toList

/-- Whether the variable is odd. -/
def odd : VariableTest := fun v args => do
  atMost "odd" 0 args
  let _ ← defined "odd" v
  let x ← needNumber "odd" "on a variable" v
  return floatRemainder x 2.0 != 0.0

/-- Whether the variable is even. -/
def even : VariableTest := fun v args => do
  atMost "even" 0 args
  let _ ← defined "even" v
  return !(← odd v args)

/-- Whether a number divides the variable. -/
def divisibleBy : VariableTest := fun v args => do
  atMost "divisibleby" 1 args
  let _ ← defined "divisibleby" v
  let x ← needNumber "divisibleby" "on a variable" v
  let y ← needNumber "divisibleby" "with a parameter" args.head?
  return floatRemainder x y == 0.0

/-- Whether the variable holds something. -/
def containing : VariableTest := fun v args => do
  atMost "containing" 1 args
  match ← defined "containing" v with
  | .text s =>
    let t ← needText "containing" "with a parameter" args.head?
    return occursIn t.toList s.toList
  | .list items => return (args.head?.map fun x => items.any x.same).getD false
  | .object pairs =>
    let key ← needText "containing" "with a parameter" args.head?
    return (pairs.lookup key).isSome
  | _ => throw (.refused "Tester `containing` can only be used on string, array or map")

/-- Whether the variable matches a pattern. -/
def matching : VariableTest := fun v args => do
  atMost "matching" 1 args
  let _ ← defined "matching" v
  let s ← needText "matching" "on a variable" v
  let t ← needText "matching" "with a parameter" args.head?
  match Pattern.compile t with
  | .ok p => return p.isMatch s.toList
  | .error _ => throw (.refused "Tester `matching`: Invalid regular expression")

/-- The tests by name. -/
def all : List (String × VariableTest) := [
  ("defined", fun v args => do atMost "defined" 0 args; return v.isSome),
  ("undefined", fun v args => do atMost "undefined" 0 args; return v.isNone),
  ("odd", odd),
  ("even", even),
  ("string", kind "string" fun v => v.toText?.isSome),
  ("number", kind "number" fun v => v.toFloat?.isSome),
  ("divisibleby", divisibleBy),
  ("iterable", kind "iterable" fun
    | .list _ | .object _ => true
    | _ => false),
  ("object", kind "object" fun
    | .object _ => true
    | _ => false),
  ("starting_with", textual "starting_with" fun s t => t.isPrefixOf s),
  ("ending_with", textual "ending_with" fun s t => t.isSuffixOf s),
  ("containing", containing),
  ("matching", matching)]

/-- The test with a given name. -/
def find? (name : String) : Option VariableTest := all.lookup name

end VariableTest

end TraceDiagram.Template
