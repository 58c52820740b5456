import TraceDiagram.FileSystem
import TraceDiagram.Pattern
import TraceDiagram.Template.Library
import TraceDiagram.Trace

/-! # Failures

* **`ConfigFault`** why a configuration cannot be used.
* **`Failure`** why a command fails; **`Failure.message`** is its text.
-/

namespace TraceDiagram

/-- The words for a pattern that is refused. -/
def Pattern.PatternError.message : Pattern.PatternError → String
  | .malformed => "regex parse error"
  | .tooLarge => "Compiled regex exceeds size limit of " ++ toString Pattern.sizeLimit ++ " bytes."

/-- Why a configuration cannot be used. -/
inductive ConfigFault where
  /-- It is not written as configurations are. -/
  | unreadable
  /-- Its line pattern lacks a group. -/
  | missingGroup (name : String)
  /-- There is no file of that name. -/
  | missingFile (path : String)
  /-- There is a file of that name, which is not to be overwritten. -/
  | alreadyThere (path : String)
  deriving DecidableEq, Repr

/-- The text of the fault. -/
def ConfigFault.message : ConfigFault → String
  | .unreadable => "TOML parse error"
  | .missingGroup name => "Line regex must define a named group '" ++ name ++ "'"
  | .missingFile path => "Configuration file " ++ path ++ " does not exist"
  | .alreadyThere path => path ++ " already exists (use --force to overwrite)"

/-- Why a command fails. -/
inductive Failure where
  /-- The configuration cannot be used. -/
  | config (fault : ConfigFault)
  /-- A pattern of the configuration is refused. -/
  | pattern (cause : Pattern.PatternError)
  /-- The templates of the configuration are refused. -/
  | template (cause : LibraryError)
  /-- A statement cannot be put into words. -/
  | statement (index : Nat) (template detail : String)
  /-- A file cannot be read or written, in a part of the work that says so. -/
  | io (cause : FileFault)
  /-- A file cannot be read or written, in a part of the work that adds no words. -/
  | file (cause : FileFault)
  /-- The diagram cannot be drawn. -/
  | renderer (reason : String)
  /-- The diagram cannot be drawn on this system. -/
  | unsupportedPlatform (name : String)
  /-- The configuration has faults, or warnings where none are allowed. -/
  | validation (errors warnings : Nat)
  deriving DecidableEq, Repr

namespace Failure

/-- The text of the failure. -/
def message : Failure → String
  | .config fault => "Configuration error: " ++ fault.message
  | .pattern cause => "Invalid pattern: " ++ cause.message
  | .template cause => "Template error: " ++ cause.message
  | .statement index name detail =>
    "Failed to render statement " ++ toString index ++ " with template '" ++ name ++ "': " ++ detail
  | .io cause => "IO error: " ++ cause.message
  | .file cause => cause.message
  | .renderer reason => "Renderer error: " ++ reason
  | .unsupportedPlatform name => "Unsupported platform for diagram rendering: " ++ name
  | .validation errors warnings =>
    "Configuration validation failed: " ++ toString errors ++ " errors, " ++ toString warnings
      ++ " warnings"

/-- The failure that a line pattern which cannot be used amounts to. -/
def ofLinePattern : LinePatternFault → Failure
  | .invalid cause => .pattern cause
  | .missingGroup name => .config (.missingGroup name)

end Failure

end TraceDiagram
