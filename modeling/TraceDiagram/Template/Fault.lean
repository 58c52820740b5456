import TraceDiagram.Json

/-! # What goes wrong in templates

* **`CallFault`** why a filter, a test or a function refuses its input.
* **`RenderFault`** why a template cannot be rendered; **`RenderFault.message`** is its text.
* **`RenderError`** a fault and the place where it was met; **`RenderError.message`** is the full text.
-/

namespace TraceDiagram.Template

/-- Why a filter, a test or a function refuses its input. -/
inductive CallFault where
  /-- A filter met a value of the wrong kind. -/
  | wrongValue (filter : String) (value : Json) (expected : String)
  /-- A filter met an argument of the wrong kind. -/
  | wrongArgument (filter argument : String) (value : Json) (expected : String)
  /-- A filter misses an argument. -/
  | missingArgument (filter argument : String)
  /-- A filter on lists misses an argument. -/
  | missingKeyArgument (filter article argument : String)
  /-- A function met an argument of the wrong kind. -/
  | wrongInput (function argument : String) (value : Json) (named expected : String)
  /-- A function misses an argument. -/
  | missingInput (function argument : String)
  /-- A test takes no arguments. -/
  | testTakesNone (test : String)
  /-- A test has more arguments than it takes. -/
  | testTakesFewer (test : String) (given most : Nat)
  /-- A test needs a variable that is there. -/
  | testUndefined (test : String)
  /-- A test needs a text or a number in one of its places. -/
  | testKind (test place kind : String)
  /-- Any other refusal, in words. -/
  | refused (reason : String)

/-- The text of the refusal. -/
def CallFault.message : CallFault → String
  | .wrongValue filter value expected =>
    "Filter `" ++ filter ++ "` was called on an incorrect value: got `" ++ value.compactText
      ++ "` but expected a " ++ expected
  | .wrongArgument filter argument value expected =>
    "Filter `" ++ filter ++ "` received an incorrect type for arg `" ++ argument ++ "`: got `"
      ++ value.compactText ++ "` but expected a " ++ expected
  | .missingArgument filter argument =>
    "Filter `" ++ filter ++ "` expected an arg called `" ++ argument ++ "`"
  | .missingKeyArgument filter article argument =>
    "The `" ++ filter ++ "` filter has to have " ++ article ++ " `" ++ argument ++ "` argument"
  | .wrongInput function argument value named expected =>
    "Function `" ++ function ++ "` received " ++ argument ++ "=" ++ value.compactText ++ " but `"
      ++ named ++ "` can only be a " ++ expected
  | .missingInput function argument =>
    "Function `" ++ function ++ "` was called without a `" ++ argument ++ "` argument"
  | .testTakesNone test =>
    "Tester `" ++ test ++ "` was called with some args but this test doesn't take args"
  | .testTakesFewer test given most =>
    "Tester `" ++ test ++ "` was called with " ++ toString given ++ " args, the max number is "
      ++ toString most
  | .testUndefined test => "Tester `" ++ test ++ "` was called on an undefined variable"
  | .testKind test place kind =>
    "Tester `" ++ test ++ "` was called " ++ place ++ " that isn't a " ++ kind
  | .refused reason => reason

/-- Why a template cannot be rendered. -/
inductive RenderFault where
  /-- A variable is not there. -/
  | unknownVariable (path template : String)
  /-- A variable is not there once the indices in brackets have been worked out. -/
  | unknownElement (path template workedOut : String)
  /-- An index in brackets cannot be worked out. -/
  | badIndex (path : String) (cause : RenderFault)
  /-- An index in brackets is neither a text nor a number. -/
  | indexKind (index path : String)
  /-- There is no such filter. -/
  | unknownFilter (name : String)
  /-- There is no such function. -/
  | unknownFunction (name : String)
  /-- There is no such test. -/
  | unknownTest (name : String)
  /-- A filter refused its input. -/
  | filterRefused (name : String) (cause : CallFault)
  /-- A function refused its input. -/
  | functionRefused (name : String) (cause : CallFault)
  /-- A test refused its input. -/
  | testRefused (name : String) (cause : CallFault)
  /-- An argument of a filter cannot be worked out. -/
  | filterArgument (name : String) (cause : RenderFault)
  /-- An argument of a function cannot be worked out. -/
  | functionArgument (name : String) (cause : RenderFault)
  /-- An argument of a test cannot be worked out. -/
  | testArgument (name : String) (cause : RenderFault)
  /-- The first words of a fault met while reckoning; what caused it is not told. -/
  | inMath (cause : RenderFault)
  /-- There is no such template. -/
  | unknownTemplate (name : String)
  /-- A macro's namespace is not known in a template. -/
  | unknownNamespace (space template : String)
  /-- A namespace has no such macro. -/
  | unknownMacro (space name template : String)
  /-- A macro misses an argument. -/
  | macroArgument (name argument : String)
  /-- Templates call one another more deeply than the renderer follows. Its words are made up: templates that never come
  to an end use up the memory of a machine, and nothing is told. -/
  | endless
  /-- Anything else, in words. -/
  | other (reason : String)

namespace RenderFault

/-- The texts of the fault and of what caused it, the fault first. -/
def messages : RenderFault → List String
  | .unknownVariable path template =>
    ["Variable `" ++ path ++ "` not found in context while rendering '" ++ template ++ "'"]
  | .unknownElement path template workedOut =>
    ["Variable `" ++ path ++ "` not found in context while rendering '" ++ template
      ++ "': the evaluated version was `" ++ workedOut ++ "`. Maybe the index is out of bounds?"]
  | .badIndex path cause =>
    ["Variable " ++ path ++ " can not be evaluated because: " ++ cause.messages.headD ""]
  | .indexKind index path =>
    ["Only variables evaluating to String or Number can be used as index (`" ++ index ++ "` of `"
      ++ path ++ "`)"]
  | .unknownFilter name => ["Filter '" ++ name ++ "' not found"]
  | .unknownFunction name => ["Function '" ++ name ++ "' not found"]
  | .unknownTest name => ["Test '" ++ name ++ "' not found"]
  | .filterRefused name cause => ["Filter call '" ++ name ++ "' failed", cause.message]
  | .functionRefused name cause => ["Function call '" ++ name ++ "' failed", cause.message]
  | .testRefused name cause => ["Test call '" ++ name ++ "' failed", cause.message]
  | .filterArgument name cause => ("Filter call '" ++ name ++ "' failed") :: cause.messages
  | .functionArgument name cause => ("Function call '" ++ name ++ "' failed") :: cause.messages
  | .testArgument name cause => ("Test call '" ++ name ++ "' failed") :: cause.messages
  | .inMath cause => [cause.messages.headD ""]
  | .unknownTemplate name => ["Template '" ++ name ++ "' not found"]
  | .unknownNamespace space template =>
    ["Macro namespace `" ++ space ++ "` was not found in template `" ++ template
      ++ "`. Have you maybe forgotten to import it, or misspelled it?"]
  | .unknownMacro space name template =>
    ["Macro `" ++ space ++ "::" ++ name ++ "` not found in template `" ++ template ++ "`"]
  | .macroArgument name argument =>
    ["Macro `" ++ name ++ "` is missing the argument `" ++ argument ++ "`"]
  | .endless => ["Templates call one another without end"]
  | .other reason => [reason]

end RenderFault

/-- A fault and the place where it was met. -/
structure RenderError where
  /-- The place, in words; a template that is not there has none. -/
  place : Option String
  /-- The fault. -/
  fault : RenderFault

/-- The full text: the place, the fault and what caused it. -/
def RenderError.message (e : RenderError) : String :=
  ": ".intercalate (e.place.toList ++ e.fault.messages)

end TraceDiagram.Template
