/-! # Messages

* **`LogLevel`** how much a message matters, **`LogEntry`** a message with its level.
-/

namespace TraceDiagram

/-- How much a message matters. -/
inductive LogLevel where
  /-- For a look into the works. -/
  | debug
  /-- For the user. -/
  | info
  /-- For the user to look after. -/
  | warn
  deriving DecidableEq, Repr

namespace LogLevel

/-- The word for a level. -/
def name : LogLevel → String
  | .debug => "DEBUG"
  | .info => "INFO"
  | .warn => "WARN"

end LogLevel

/-- A message with its level. -/
structure LogEntry where
  /-- The level. -/
  level : LogLevel
  /-- The text. -/
  text : String
  deriving DecidableEq, Repr

namespace LogEntry

/-- A message for a look into the works. -/
def debug (text : String) : LogEntry := ⟨.debug, text⟩

/-- A message for the user. -/
def info (text : String) : LogEntry := ⟨.info, text⟩

/-- A message for the user to look after. -/
def warn (text : String) : LogEntry := ⟨.warn, text⟩

/-- The message as one line. -/
def line (e : LogEntry) : String := e.level.name ++ " " ++ e.text

end LogEntry

end TraceDiagram
