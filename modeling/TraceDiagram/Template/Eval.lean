import TraceDiagram.Template.Arithmetic
import TraceDiagram.Template.Describe
import TraceDiagram.Template.Filter
import TraceDiagram.Template.Frame
import TraceDiagram.Template.Function
import TraceDiagram.Template.Test

/-! # The meaning of expressions

* **`Meaning`** what an operand means as a value, as a condition and as a number. Each is a step, and is
  taken only where it is asked for.
* **`Expr.meaning`** the meaning of an operand, by recursion on it.
-/

namespace TraceDiagram.Template

open Text

/-- What an operand means. -/
structure Meaning where
  /-- As a value. -/
  value : Render Json
  /-- As a condition. -/
  truth : Render Bool
  /-- As a number; some operations have no result. -/
  number : Render (Option Number)

/-- Named arguments that have not been worked out yet. -/
abbrev Pending := List (String × Render Json)

/-- What expressions need from their surroundings. -/
structure Surroundings where
  /-- The variables that the template is given. -/
  context : Context
  /-- The text that a macro of a namespace gives for arguments. -/
  callMacro : String → String → Pending → Render String

/-- Refuses, in words. -/
def fail {α : Type} (reason : String) : Render α := throw (.other reason)

/-- Works out named arguments; a fault in one is told of by `wrap`. -/
def workOut (wrap : RenderFault → RenderFault) : Pending → Render Args
  | [] => pure []
  | (name, step) :: rest => do
    let v ← tryCatch step fun e => throw (wrap e)
    let more ← workOut wrap rest
    return (name, v) :: more

/-- Works out the arguments of a test. -/
def workOutAll (wrap : RenderFault → RenderFault) : List (Render Json) → Render (List Json)
  | [] => pure []
  | step :: rest => do
    let v ← tryCatch step fun e => throw (wrap e)
    let more ← workOutAll wrap rest
    return v :: more

/-- The value of a variable; one name stands for all variables. -/
def lookUp (context : Context) (path : String) : Render Json := do
  let s ← get
  if path = "__tera_context" then return .text (contextText s context)
  match resolve s context path with
  | .ok v => return v
  | .error e => throw e

/-- What a filter gives for a value. -/
def applyFilter (name : String) (args : Pending) (v : Json) : Render Json := do
  match Filter.find? name with
  | none => throw (.unknownFilter name)
  | some filter =>
    let args ← workOut (.filterArgument name) args
    match filter v args with
    | .ok result => return result
    | .error e => throw (.filterRefused name e)

/-- What a function gives. -/
def applyFunction (name : String) (args : Pending) : Render Json := do
  match Function.find? name with
  | none => throw (.unknownFunction name)
  | some function =>
    let args ← workOut (.functionArgument name) args
    match function args with
    | .ok result => return result
    | .error e => throw (.functionRefused name e)

/-- What a test says of a variable. -/
def applyTest (context : Context) (path name : String) (args : List (Render Json)) :
    Render Bool := do
  match VariableTest.find? name with
  | none => throw (.unknownTest name)
  | some test =>
    let args ← workOutAll (.testArgument name) args
    let v ← tryCatch (some <$> lookUp context path) fun _ => pure none
    match test v args with
    | .ok answer => return answer
    | .error e => throw (.testRefused name e)

/-- What a value puts through filters becomes. A value in place of a missing variable has been given
already, and nothing is to be done for the mark that a text is safe. -/
def applyFilters : List (String × Pending) → Json → Render Json
  | [], v => pure v
  | (name, args) :: rest, v => do
    let v ← if name = "safe" || name = "default" then pure v else applyFilter name args v
    applyFilters rest v

/-- Whether a container holds an item. -/
def holds (item container : Json) : Except RenderFault Bool :=
  match container, item with
  | .list items, _ => .ok (items.any item.same)
  | .text s, .text t => .ok (occursIn t.toList s.toList)
  | .text _, _ => .error (.other
      ("Tried to check if " ++ item.describe ++ " is in a string, but it isn't a string"))
  | .object pairs, .text key => .ok (pairs.lookup key).isSome
  | .object _, _ => .error (.other
      ("Tried to check if " ++ item.describe ++ " is in a object, but it isn't a string"))
  | _, _ => .error (.other "The `in` operator only supports strings, arrays and objects.")

/-- The text of a value that is written behind another. -/
def concatText (source : String) (v : Json) : Render String :=
  match v with
  | .text s => pure s
  | .number n => pure (String.ofList n.dataText)
  | _ => fail ("Tried to concat a value that is not a string or a number from " ++ source)

/-- The value given for a missing variable. -/
def fallbackValue (args : Pending) : Render Json :=
  match args.lookup "value" with
  | some step => step
  | none => fail "The `default` filter requires a `value` argument."

/-- The arguments of the first filter, if it gives a value for a missing variable. -/
def fallback? : List (String × Pending) → Option Pending
  | (name, args) :: _ => if name = "default" then some args else none
  | [] => none

/-- The number that a value is, if it is one. -/
def asNumber (reason : String) (v : Json) : Render (Option Number) :=
  match v with
  | .number n => pure (some n)
  | _ => fail reason

namespace Meaning

/-- A truth value. -/
def ofFlag (b : Bool) : Meaning where
  value := pure (.flag b)
  truth := pure b
  number := fail ("Tried to do math with a boolean: `" ++ toString b ++ "`")

/-- A text. -/
def ofText (s : String) : Meaning where
  value := pure (.text s)
  truth := pure (!s.isEmpty)
  number := fail ("Tried to do math with a string: `" ++ s ++ "`")

/-- A number. -/
def ofNumber (n : Number) : Meaning where
  value := pure (.number n)
  truth := pure (n.toFloat != 0.0)
  number := pure (some n)

/-- A condition. -/
def ofTruth (truth : Render Bool) (reason : String) : Meaning where
  value := Json.flag <$> truth
  truth := truth
  number := fail reason

/-- The result of reckoning. One that is no number is written so, and of a fault only the first words are
told. -/
def ofMath (number : Render (Option Number)) : Meaning where
  value := do
    match ← tryCatch number fun e => throw (.inMath e) with
    | some n => return .number n
    | none => return .text "NaN"
  truth := do
    match ← number with
    | some n => return n.toFloat != 0.0
    | none => return false
  number := number

/-- Two numbers and an operator. -/
def math (op : MathOp) (left right : Expr) (l r : Meaning) : Meaning := ofMath do
  let a ← l.number
  let b ← r.number
  match a, b with
  | some a, some b =>
    match op.apply (.other
        ("Tried to do a modulo by zero: " ++ left.describe ++ "/" ++ right.describe)) a b with
    | .ok n => return n
    | .error e => throw e
  | _, _ => return none

/-- Two operands and an operator that gives a truth value, which may be negated. A number and something else
do not compare: the answer is no, negated or not. -/
def logicTruth (op : LogicOp) (negated : Bool) (l r : Meaning) : Render Bool :=
  match op with
  | .either => do
    let first ← l.truth
    let answer ← if first then pure true else r.truth
    return answer != negated
  | .both => do
    let first ← l.truth
    let answer ← if first then r.truth else pure false
    return answer != negated
  | .equal => do
    let a ← l.value
    let b ← r.value
    return !mixedKinds a b && (equalValues a b != negated)
  | .unequal => do
    let a ← l.value
    let b ← r.value
    return !mixedKinds a b && (equalValues a b == negated)
  | _ => do
    let a ← l.number
    let b ← r.number
    match a, b with
    | some a, some b => return op.compare a b != negated
    | _, _ => fail "Comparison to NaN"

/-- A variable. -/
def path (context : Context) (name : String) : Meaning where
  value := lookUp context name
  truth := Json.truthy <$> lookUp context name
  number := do
    asNumber ("Variable `" ++ name ++ "` was used in a math operation but is not a number")
      (← lookUp context name)

/-- A call of a function. -/
def call (name : String) (args : Pending) : Meaning where
  value := applyFunction name args
  truth := do
    match ← applyFunction name args with
    | .flag b => return b
    | _ =>
      fail ("Function `" ++ name
        ++ "` was used in a logic expression but is not returning a boolean")
  number := do
    asNumber ("Function `" ++ name ++ "` was used in a math operation but is not returning a number")
      (← applyFunction name args)

/-- A call of a macro. -/
def macroCall (text : Render String) : Meaning where
  value := Json.text <$> text
  truth := do return !(← text).isEmpty
  number := fail "Tried to do math with a macro"

/-- Terms written one after the other. -/
def concat (shown : String) (text : Render String) : Meaning where
  value := Json.text <$> text
  truth := do return !(← text).isEmpty
  number := fail ("Tried to do math with a string concatenation: " ++ shown)

/-- A list. -/
def list (items : Render (List Json)) : Meaning where
  value := Json.list <$> items
  truth := do return !(← items).isEmpty
  number := fail "Tried to do math with a list"

/-- The question whether a container holds an item. -/
def isIn (negated : Bool) (item container : Meaning) : Meaning :=
  ofTruth (do
    let a ← item.value
    let b ← container.value
    match holds a b with
    | .ok answer => return answer != negated
    | .error e => throw e) "Tried to do math with a condition"

/-- The value of a term before its filters. A variable that is missing may be given another value; if there
is none and it is negated, the whole operand is true. -/
def before (term : Term) (negated : Bool) (filters : List (String × Pending)) (m : Meaning) :
    Render (Option Json) :=
  match term with
  | .path _ =>
    match fallback? filters with
    | some args => do
      match ← tryCatch m.value fun _ => pure .null with
      | .null => some <$> fallbackValue args
      | v => return some v
    | none =>
      if negated then tryCatch (some <$> m.value) fun _ => pure none else some <$> m.value
  | .logic _ _ _ => do return some (.flag (← m.truth))
  | _ => some <$> m.value

/-- The value of an operand. -/
def finishValue (term : Term) (negated : Bool) (filters : List (String × Pending)) (m : Meaning) :
    Render Json := do
  match ← before term negated filters m with
  | none => return .flag true
  | some v =>
    let v ← applyFilters filters v
    return if negated then .flag !v.truthy else v

/-- The operand as a condition: filters count for variables and texts alone. -/
def finishTruth (term : Term) (negated : Bool) (filters : List (String × Pending)) (m : Meaning) :
    Render Bool :=
  match term with
  | .path _ => do
    let v ← tryCatch (finishValue term negated filters m) fun _ => pure (.flag false)
    return v.truthy
  | .concat _ => do
    match ← finishValue term negated filters m with
    | .text s => return s.isEmpty == negated
    | v => return v.truthy
  | .logic _ _ _ => m.truth
  | _ => do return (← m.truth) != negated

/-- The operand as a number. -/
def finishNumber (term : Term) (negated : Bool) (filters : List (String × Pending)) (m : Meaning) :
    Render (Option Number) :=
  if filters.isEmpty then m.number
  else do
    asNumber "Tried to do math with an expression not resulting in a number"
      (← finishValue term negated filters m)

/-- The meaning of an operand from that of its term. -/
def finish (term : Term) (negated : Bool) (filters : List (String × Pending)) (m : Meaning) :
    Meaning where
  value := finishValue term negated filters m
  truth := finishTruth term negated filters m
  number := finishNumber term negated filters m

end Meaning

/-- How messages show a term that is written behind another. -/
def concatShown : Term → String
  | .text s => "'" ++ s ++ "'"
  | .path p => p
  | _ => "unknown"

/-- The text of a term that is written behind another, given its meaning. -/
def concatPart (term : Term) (m : Meaning) : Render String :=
  match term with
  | .text s => pure s
  | .int n => pure (toString n)
  | .float x => pure (String.ofList (plainFloatText x))
  | .path p => do concatText ("ident " ++ p) (← m.value)
  | .call c => do concatText ("function call " ++ c.name) (← m.value)
  | _ => do concatText "a term" (← m.value)

mutual

/-- The meaning of an operand. -/
def Expr.meaning (around : Surroundings) : Expr → Meaning
  | .mk term negated filters =>
    Meaning.finish term negated (pendingCalls around filters) (Term.meaning around negated term)

/-- The meaning of a term; a condition takes up the negation of its operand. -/
def Term.meaning (around : Surroundings) (negated : Bool) : Term → Meaning
  | .text s => .ofText s
  | .int n => .ofNumber (.int n)
  | .float x => .ofNumber (.float x)
  | .flag b => .ofFlag b
  | .path name => .path around.context name
  | .math op left right => .math op left right (left.meaning around) (right.meaning around)
  | .logic op left right =>
    .ofTruth (Meaning.logicTruth op negated (left.meaning around) (right.meaning around))
      "Tried to do math with a condition"
  | .isIn outside item container =>
    .isIn outside (item.meaning around) (container.meaning around)
  | .test path failing name args =>
    let args := pendingItems around args
    .ofTruth (do return (← applyTest around.context path name args) != failing)
      ("Tried to do math with a test: " ++ name)
  | .call (.mk name args) => .call name (pendingArgs around args)
  | .macroCall space name args => .macroCall (around.callMacro space name (pendingArgs around args))
  | .concat items =>
    .concat (" ~ ".intercalate (items.map concatShown)) (concatAll around items)
  | .list items => .list (listAll around items)

/-- Filters with their arguments. -/
def pendingCalls (around : Surroundings) : List Call → List (String × Pending)
  | [] => []
  | .mk name args :: rest => (name, pendingArgs around args) :: pendingCalls around rest

/-- Named arguments, to be worked out. -/
def pendingArgs (around : Surroundings) : List (String × Expr) → Pending
  | [] => []
  | (name, e) :: rest => (name, (e.meaning around).value) :: pendingArgs around rest

/-- Arguments without names, to be worked out. -/
def pendingItems (around : Surroundings) : List Expr → List (Render Json)
  | [] => []
  | e :: rest => (e.meaning around).value :: pendingItems around rest

/-- The items of a list. -/
def listAll (around : Surroundings) : List Expr → Render (List Json)
  | [] => pure []
  | e :: rest => do
    let v ← (e.meaning around).value
    let more ← listAll around rest
    return v :: more

/-- The text of terms written one after the other. -/
def concatAll (around : Surroundings) : List Term → Render String
  | [] => pure ""
  | t :: rest => do
    let s ← concatPart t (Term.meaning around false t)
    let more ← concatAll around rest
    return s ++ more

end

end TraceDiagram.Template
