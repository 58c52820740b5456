import TraceDiagram.Config
import TraceDiagram.Pattern
import TraceDiagram.Statement
import TraceDiagram.Text.Split

/-! # Patterns for bodies

What a statement says stands in the body of its line.

* **`ParamSyntax`** how lists of parameters are written; **`ParamSyntax.read`** reads one.
* **`BodyPatterns`** the patterns of a configuration, read.
* **`BodyPatterns.capture`** matches a body and takes the named groups for attributes.
-/

namespace TraceDiagram

open Text

/-- How lists of parameters are written. -/
structure ParamSyntax where
  /-- What stands between a parameter and its value. -/
  valueSeparator : String
  /-- What stands between two parameters. -/
  pairSeparator : String
  deriving DecidableEq, Repr

namespace ParamSyntax

/-- Reads one parameter, if the text has a separator. -/
def readOne (x : ParamSyntax) (item : List Char) : Option Param :=
  (splitOnce? x.valueSeparator.toList item).map fun (name, value) =>
    { name := String.ofList (trimChars name), value := String.ofList (trimChars value) }

/-- Reads a list of parameters; pieces without a separator are passed over. -/
def read (x : ParamSyntax) (raw : String) : List Param :=
  if x.valueSeparator.isEmpty || !occursIn x.valueSeparator.toList raw.toList then []
  else (split x.pairSeparator.toList raw.toList).filterMap x.readOne

end ParamSyntax

/-- The patterns for bodies, read. -/
structure BodyPatterns where
  /-- For a message that reaches an entity. -/
  messageReceive : Pattern
  /-- For a message that leaves an entity. -/
  messageSend : Pattern
  /-- For a call of a method. -/
  methodInvoke : Pattern
  /-- For a call of a function. -/
  functionInvoke : Pattern
  /-- For a return. -/
  methodReturn : Pattern
  /-- For a creation. -/
  create : Pattern
  /-- For a deletion. -/
  delete : Pattern
  /-- For what happens to a timer. -/
  timer : Pattern
  /-- What stands between an object and its method. -/
  scopeMarker : String
  /-- How lists of parameters are written. -/
  paramSyntax : ParamSyntax

namespace BodyPatterns

/-- The way in which a configuration has lists of parameters written. -/
def paramSyntaxOf (format : Config.Format) : ParamSyntax :=
  { valueSeparator := format.attributeValueSeparator, pairSeparator := format.pairSeparator }

/-- Reads the patterns of a configuration, in order. -/
def ofConfig (config : Config) : Except Pattern.PatternError BodyPatterns := do
  let messageReceive ← Pattern.compile config.patterns.messageReceive
  let messageSend ← Pattern.compile config.patterns.messageSend
  let methodInvoke ← Pattern.compile config.patterns.methodInvoke
  let functionInvoke ← Pattern.compile config.patterns.functionInvoke
  let methodReturn ← Pattern.compile config.patterns.methodReturn
  let create ← Pattern.compile config.patterns.create
  let delete ← Pattern.compile config.patterns.delete
  let timer ← Pattern.compile config.patterns.timer
  return {
    messageReceive, messageSend, methodInvoke, functionInvoke, methodReturn, create, delete, timer
    scopeMarker := config.trace.scopeMarker
    paramSyntax := paramSyntaxOf config.format }

/-- Takes a named group for an attribute, or for the list of parameters. -/
def takeGroup (x : ParamSyntax) (s : Statement) (group : String × String) : Statement :=
  if group.1 = "params" then s.setParams (x.read group.2) else s.setAttribute group.1 group.2

/-- The named groups of a pattern with what they matched; one that took no part in the match is empty. -/
def groupsOf (p : Pattern) (c : Captures) : List (String × String) :=
  p.groupNames.map fun name => (name, (c.get? name).getD "")

/-- Matches a body and takes the named groups for attributes. -/
def capture (patterns : BodyPatterns) (p : Pattern) (kind : StatementKind) (body : String) :
    Option Statement :=
  (p.captures body.toList).map fun c =>
    (groupsOf p c).foldl (takeGroup patterns.paramSyntax) { kind := kind }

end BodyPatterns

end TraceDiagram
