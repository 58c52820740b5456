import TraceDiagram.Extraction.Rules
import TraceDiagram.Text.Lines

/-! # Reading traces

* **`TraceReader`** the line pattern, the rules and the groups of entities that a trace is read with.
* **`ParsedTrace`** the statements of a trace and its cast.
* **`TraceReader.step`** reads one line; **`LineOutcome`** says what became of it.
* **`TraceReader.run`** reads one line after the other.
-/

namespace TraceDiagram

/-- What a trace is read with. -/
structure TraceReader where
  /-- The pattern that takes a line apart. -/
  linePattern : Pattern
  /-- Which handler takes care of which category. -/
  rules : ExtractionRules
  /-- The entity that executes when no call is open. -/
  tracedEntity : String
  /-- The group of each entity. -/
  parents : Dict String String

/-- The statements of a trace and its cast. -/
structure ParsedTrace where
  /-- The statements, in order. -/
  statements : List Statement := []
  /-- The entities that they refer to. -/
  cast : Cast := {}
  /-- Whether one of the entities has no group of its own, while others have one. -/
  usesDefaultGroup : Bool := false
  deriving DecidableEq, Repr

/-- How far a trace has been read. -/
structure TraceState where
  /-- What has been read. -/
  parsed : ParsedTrace := {}
  /-- The calls that are open. -/
  stack : CallStack
  /-- How many lines have been read. -/
  linesSeen : Nat := 0
  deriving DecidableEq, Repr

/-- What became of a line. -/
inductive LineOutcome where
  /-- The line pattern does not match the line with the given number. -/
  | skipped (number : Nat)
  /-- The handler made nothing of the body. -/
  | unmatched (category body : String)
  /-- The line gave a statement. -/
  | stored
  deriving DecidableEq, Repr

/-- Why a line pattern cannot be used. -/
inductive LinePatternFault where
  /-- It is no pattern. -/
  | invalid (cause : Pattern.PatternError)
  /-- It lacks a group. -/
  | missingGroup (name : String)
  deriving DecidableEq, Repr

/-- The groups that a line pattern has to have. -/
def requiredGroups : List String := ["category", "body"]

namespace ParsedTrace

/-- Takes note of a reference to an entity. -/
def refer (t : ParsedTrace) (parents : Dict String String) (reference : String × Lifetime) :
    ParsedTrace :=
  { t with
    cast := t.cast.refer reference.1 reference.2
    usesDefaultGroup := t.usesDefaultGroup || (!parents.isEmpty && !parents.contains reference.1) }

/-- Adds a statement, with the entities that it refers to. -/
def store (t : ParsedTrace) (parents : Dict String String) (s : Statement) : ParsedTrace :=
  let noted := s.references.foldl (refer · parents) t
  { noted with statements := noted.statements ++ [s] }

end ParsedTrace

namespace TraceReader

/-- The line pattern of a configuration. -/
def linePatternOf (config : Config) : Except LinePatternFault Pattern :=
  match Pattern.compile config.trace.linePattern with
  | .error e => .error (.invalid e)
  | .ok p =>
    match requiredGroups.find? fun name => !p.groupNames.contains name with
    | some name => .error (.missingGroup name)
    | none => .ok p

/-- A reader with given rules. -/
def withRules (linePattern : Pattern) (rules : ExtractionRules) (config : Config) : TraceReader where
  linePattern := linePattern
  rules := rules
  tracedEntity := config.trace.tracedEntity
  parents := config.entities.parents

/-- The reader of a configuration. -/
def ofConfig (config : Config) : Except LinePatternFault TraceReader := do
  let linePattern ← linePatternOf config
  match ExtractionRules.ofConfig config with
  | .ok rules => return withRules linePattern rules config
  | .error e => throw (.invalid e)

/-- The state before the first line. -/
def start (r : TraceReader) : TraceState := { stack := { root := r.tracedEntity } }

/-- What a named group of the line pattern matched, or nothing. -/
def field (c : Captures) (name : String) : String := (c.get? name).getD ""

/-- What a handler learns of a line. -/
def fieldsOf (c : Captures) : LineFields where
  category := field c "category"
  generator := field c "generator"
  body := field c "body"

/-- Where a line came from. -/
def remarkOf (c : Captures) : Remark where
  time := field c "time"
  file := field c "file"
  generator := field c "generator"

/-- Completes a statement with what is known about its line, where the statement does not say otherwise. -/
def complete (line : LineFields) (remark : Remark) (s : Statement) : Statement :=
  ((((s.setDefault "time" remark.time).setDefault "file" remark.file).setDefault "generator"
    line.generator).setDefault "category" line.category).setRemark remark

/-- Reads a line that the line pattern matches. -/
def stepMatched (r : TraceReader) (state : TraceState) (line : LineFields) (remark : Remark) :
    TraceState × LineOutcome :=
  match r.rules.construct line state.stack with
  | (none, stack) =>
    ({ state with stack := stack, linesSeen := state.linesSeen + 1 },
      .unmatched line.category line.body)
  | (some s, stack) =>
    ({ parsed := state.parsed.store r.parents (complete line remark s)
       stack := stack
       linesSeen := state.linesSeen + 1 }, .stored)

/-- Reads one line. -/
def step (r : TraceReader) (state : TraceState) (line : String) : TraceState × LineOutcome :=
  match r.linePattern.captures line.toList with
  | none => ({ state with linesSeen := state.linesSeen + 1 }, .skipped (state.linesSeen + 1))
  | some c => r.stepMatched state (fieldsOf c) (remarkOf c)

/-- Reads one line after the other. -/
def run (r : TraceReader) : TraceState → List String → TraceState × List LineOutcome
  | state, [] => (state, [])
  | state, line :: rest =>
    let (next, outcome) := r.step state line
    let (last, outcomes) := r.run next rest
    (last, outcome :: outcomes)

/-- Reads all lines of a trace. -/
def read (r : TraceReader) (text : String) : TraceState × List LineOutcome :=
  r.run r.start ((Text.lines text.toList).map String.ofList)

end TraceReader

end TraceDiagram
