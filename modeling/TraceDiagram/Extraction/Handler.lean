import TraceDiagram.CallStack
import TraceDiagram.Extraction.BodyPatterns

/-! # Handlers

A handler makes a statement of a line, and keeps account of the calls that are open.

* **`LineFields`** what a handler learns of a line.
* **`Handler`** from the patterns, the line and the open calls to a statement, if the body fits, and the calls
  that are open then.
* **`builtinHandlers`** the handlers that there are, by name.
-/

namespace TraceDiagram

open Text

/-- What a handler learns of a line. -/
structure LineFields where
  /-- The category. -/
  category : String
  /-- The entity that wrote the line. -/
  generator : String
  /-- The body. -/
  body : String
  deriving DecidableEq, Repr

/-- Makes a statement of a line, if its body fits, and keeps account of the open calls. -/
abbrev Handler := BodyPatterns → LineFields → CallStack → Option Statement × CallStack

namespace Handler

/-- A handler that leaves the open calls as they are. -/
def ofStatement (f : BodyPatterns → LineFields → CallStack → Option Statement) : Handler :=
  fun patterns line stack => (f patterns line stack, stack)

/-- A handler that matches a pattern and adds the entity that wrote the line. -/
def byGenerator (kind : StatementKind) (pattern : BodyPatterns → Pattern) (key : String) : Handler :=
  ofStatement fun patterns line _ =>
    (patterns.capture (pattern patterns) kind line.body).map fun s => s.setAttribute key line.generator

/-- A message reaches the entity that wrote the line. -/
def messageReceive : Handler := byGenerator .messageReceive (·.messageReceive) "destination"

/-- A message leaves the entity that wrote the line. -/
def messageSend : Handler := byGenerator .messageSend (·.messageSend) "source"

/-- The entity that wrote the line creates another. -/
def create : Handler := byGenerator .create (·.create) "creator"

/-- The entity that wrote the line deletes another. -/
def delete : Handler := byGenerator .delete (·.delete) "deletor"

/-- Whether a body calls a method: the marker stands in front of the first parenthesis. -/
def callsMethod (marker body : String) : Bool :=
  !marker.isEmpty && occursIn marker.toList (body.toList.takeWhile (· ≠ '('))

/-- The call that a body describes. A function that belongs to no object is its own entity. -/
def callStatement? (patterns : BodyPatterns) (body : String) : Option Statement :=
  if callsMethod patterns.scopeMarker body then
    patterns.capture patterns.methodInvoke .invoke body
  else
    (patterns.capture patterns.functionInvoke .invoke body).map fun s =>
      match s.value? "method" with
      | some method => s.setAttribute "called" method
      | none => s

/-- A call, which is open from now on. -/
def invoke : Handler := fun patterns line stack =>
  match callStatement? patterns line.body with
  | none => (none, stack)
  | some s =>
    let call := s.setAttribute "caller" stack.caller
    (some call, stack.push call)

/-- Takes an attribute of a call over, if the statement has none or an empty one. -/
def inherit (call s : Statement) (key : String) : Statement :=
  if ((s.value? key).getD "").isEmpty then
    match call.value? key with
    | some value => s.setAttribute key value
    | none => s
  else s

/-- A return. It closes the innermost call, also if its body does not fit. -/
def methodReturn : Handler := fun patterns line stack =>
  match stack.pop with
  | (none, stack) => (none, stack)
  | (some call, stack) =>
    ((patterns.capture patterns.methodReturn .methodReturn line.body).map fun s =>
      ["caller", "called", "method"].foldl (inherit call) s, stack)

/-- What happens to a timer of the executing entity. A pattern that does not say which takes the whole body. -/
def timer (kind : StatementKind) : Handler := ofStatement fun patterns line stack =>
  (patterns.timer.captures line.body.toList).map fun c =>
    let name := (c.get? "timer").getD (trim line.body)
    ((({ kind := kind } : Statement).setAttribute "object" stack.caller).setAttribute "timer" name)

/-- What happens to the executing entity, with the whole body as one attribute. -/
def ofObject (kind : StatementKind) (key : String) : Handler := ofStatement fun _ line stack =>
  some ((({ kind := kind } : Statement).setAttribute "object" stack.caller).setAttribute key
    (trim line.body))

/-- Any other action of the executing entity. -/
def genericAction : Handler := ofStatement fun _ line stack =>
  some (((({ kind := .genericAction } : Statement).setAttribute "actor" stack.caller).setAttribute
    "action_type" line.category).setAttribute "action" (trim line.body))

end Handler

/-- The handlers that there are. -/
def builtinHandlers : Dict String Handler := Dict.ofList [
  ("MessageReceive", Handler.messageReceive),
  ("MessageSend", Handler.messageSend),
  ("Invoke", Handler.invoke),
  ("Return", Handler.methodReturn),
  ("Create", Handler.create),
  ("Delete", Handler.delete),
  ("StateChange", Handler.ofObject .stateChange "state"),
  ("StartTimer", Handler.timer .startTimer),
  ("StopTimer", Handler.timer .stopTimer),
  ("ExpiredTimer", Handler.timer .expiredTimer),
  ("Allocate", Handler.ofObject .allocate "resource"),
  ("Free", Handler.ofObject .free "resource"),
  ("BeginAction", Handler.ofObject .beginAction "action"),
  ("EndAction", Handler.ofObject .endAction "action"),
  ("Action", Handler.genericAction)]

end TraceDiagram
