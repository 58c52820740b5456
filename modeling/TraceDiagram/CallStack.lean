import TraceDiagram.Statement

/-! # Open calls

* **`CallStack`** the calls that have not returned yet, innermost first.
* **`CallStack.caller`** the entity that is executing: the one called last, or the traced entity itself.
-/

namespace TraceDiagram

/-- The calls that have not returned yet. -/
structure CallStack where
  /-- The calls, innermost first. -/
  frames : List Statement := []
  /-- The entity that executes when no call is open. -/
  root : String
  deriving DecidableEq, Repr

namespace CallStack

/-- Opens a call. -/
def push (s : CallStack) (call : Statement) : CallStack := { s with frames := call :: s.frames }

/-- The innermost call, if there is one, and the stack without it. -/
def pop (s : CallStack) : Option Statement × CallStack :=
  (s.frames.head?, { s with frames := s.frames.tail })

/-- The innermost call. -/
def top? (s : CallStack) : Option Statement := s.frames.head?

/-- How many calls are open. -/
def depth (s : CallStack) : Nat := s.frames.length

/-- The entity that is executing. -/
def caller (s : CallStack) : String :=
  (s.top?.bind fun call => call.value? "called").getD s.root

@[simp] theorem pop_push (s : CallStack) (call : Statement) :
    (s.push call).pop = (some call, s) := rfl

@[simp] theorem top?_push (s : CallStack) (call : Statement) : (s.push call).top? = some call := rfl

@[simp] theorem depth_push (s : CallStack) (call : Statement) :
    (s.push call).depth = s.depth + 1 := rfl

end CallStack

end TraceDiagram
