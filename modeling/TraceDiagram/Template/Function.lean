import TraceDiagram.Template.Arguments

/-! # Functions of templates

Functions know nothing but their arguments.

* **`Function.find?`** the function with a given name.

What a machine would add is left out. A setting of the machine is looked up as if none were made, a number drawn at
random is the least that may be drawn, and there is no function that tells the time. Where a template asks for any of
these, its text here is not the one that it has on a machine.
-/

namespace TraceDiagram.Template

/-- A function of named arguments. -/
abbrev Function := Args → Outcome Json

namespace Function

/-- An argument of a function, if it is given; `read` has to take it. -/
def input? {α : Type} (function name named expected : String) (read : Json → Option α)
    (args : Args) : Outcome (Option α) :=
  match args.lookup name with
  | none => .ok none
  | some v =>
    match read v with
    | some a => .ok (some a)
    | none => .error (.wrongInput function name v named expected)

/-- An argument of a function that has to be given. -/
def needed {α : Type} (function name : String) (a : Option α) : Outcome α :=
  match a with
  | some a => .ok a
  | none => .error (.missingInput function name)

/-- The numbers from `start` on, below `finish`, in steps. -/
def countUp (finish step : Nat) : Nat → Nat → List Json
  | 0, _ => []
  | fuel + 1, n => if n < finish then Json.int n :: countUp finish step fuel (n + step) else []

/-- A list of numbers. -/
def range : Function := fun args => do
  let start := (← input? "range" "start" "start" "number" Json.toNat? args).getD 0
  let step := (← input? "range" "step_by" "step" "number" Json.toNat? args).getD 1
  match args.lookup "end" with
  | none => throw (.missingInput "range" "end")
  | some _ =>
    let finish ← needed "range" "end" (← input? "range" "end" "end" "number" Json.toNat? args)
    if finish < start then
      throw (.refused
        "Function `range` was called with a `start` argument greater than the `end` one")
    return .list (countUp finish step (finish - start) start)

/-- Refuses, with a message. -/
def throwing : Function := fun args => do
  let message ← needed "throw" "message"
    (← input? "throw" "message" "message" "string" Json.toText? args)
  throw (.refused message)

/-- A setting of the machine: there is none, so what is given for its absence. -/
def getEnv : Function := fun args => do
  let name ← needed "get_env" "name" (← input? "get_env" "name" "name" "string" Json.toText? args)
  match args.lookup "default" with
  | some v => return v
  | none => throw (.refused ("Environment variable `" ++ name ++ "` not found"))

/-- A whole number within bounds. -/
def getRandom : Function := fun args => do
  let bound := Json.toIntWithin? Int64.minValue.toInt Int64.maxValue.toInt
  let start := (← input? "get_random" "start" "start" "number" bound args).getD 0
  let _ ← needed "get_random" "end" (← input? "get_random" "end" "end" "number" bound args)
  return Json.int start

/-- The functions by name. -/
def all : List (String × Function) :=
  [("range", range), ("throw", throwing), ("get_random", getRandom), ("get_env", getEnv)]

/-- The function with a given name. -/
def find? (name : String) : Option Function := all.lookup name

end Function

end TraceDiagram.Template
