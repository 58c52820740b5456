import TraceDiagram.Document
import TraceDiagram.Log

/-! # Compiling traces

From a configuration and the text of a trace to a document.

* **`Compiler`** a configuration whose templates have been read.
* **`Compiler.compile`** the document of a trace, and the messages on the way.
* **`compile`** both steps.
-/

namespace TraceDiagram

/-- A configuration whose templates have been read. -/
structure Compiler where
  /-- The configuration. -/
  config : Config
  /-- Its templates. -/
  wording : Wording

/-- The messages for what became of a line. -/
def LineOutcome.log : LineOutcome → List LogEntry
  | .skipped number => [.debug ("Skipping line " ++ toString number ++ ": no match")]
  | .unmatched category body =>
    [.debug ("Body of '" ++ category ++ "' trace did not match: " ++ body)]
  | .stored => []

/-- The messages at the end of a trace. -/
def TraceState.log (s : TraceState) : List LogEntry :=
  (if s.stack.depth = 0 then []
    else [.debug (toString s.stack.depth ++ " invocations still open at end of trace")])
  ++ [.info ("Parsed " ++ toString s.linesSeen ++ " lines into "
      ++ toString s.parsed.statements.length ++ " statements referencing "
      ++ toString s.parsed.cast.size ++ " entities")]
  ++ (if s.parsed.cast.isEmpty then
      [.warn "No entities found in the trace; check the line regex and category mapping"] else [])

/-- The message for a document that is done. -/
def ParsedTrace.log (t : ParsedTrace) : LogEntry :=
  .debug ("Assembled document with " ++ toString t.cast.size ++ " entities and "
    ++ toString t.statements.length ++ " statements")

namespace Compiler

/-- Reads the templates of a configuration. -/
def ofConfig (config : Config) : Except Failure Compiler :=
  match Wording.ofTemplates config.templates with
  | .ok wording => .ok { config := config, wording := wording }
  | .error e => .error (.template e)

/-- The layout of documents. -/
def layout (c : Compiler) : Layout where
  wording := c.wording
  format := c.config.format
  parents := c.config.entities.parents

/-- The reader for traces. -/
def reader (c : Compiler) : Except Failure TraceReader :=
  match TraceReader.ofConfig c.config with
  | .ok r => .ok r
  | .error e => .error (.ofLinePattern e)

/-- The document of a trace, and the messages on the way. -/
def compile (c : Compiler) (trace : String) : Except Failure String × List LogEntry :=
  match c.reader with
  | .error e => (.error e, [])
  | .ok r =>
    let (last, outcomes) := r.read trace
    let log := outcomes.flatMap LineOutcome.log ++ last.log
    match c.layout.document last.parsed with
    | .error e => (.error e, log)
    | .ok text => (.ok text, log ++ [last.parsed.log])

end Compiler

/-- The document of a trace under a configuration, and the messages on the way. -/
def compile (config : Config) (trace : String) : Except Failure String × List LogEntry :=
  match Compiler.ofConfig config with
  | .error e => (.error e, [])
  | .ok c => c.compile trace

end TraceDiagram
