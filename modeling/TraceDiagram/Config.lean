import TraceDiagram.Dict
import TraceDiagram.TextSet

/-! # Configurations

How traces are read and how diagrams are written. Every field has a default value.

* **`Config`** all settings, in sections.
-/

namespace TraceDiagram

namespace Config

/-- How the lines of a trace are read. -/
structure Trace where
  /-- The pattern that takes a line apart into time, generator, file, category and body. -/
  linePattern : String :=
    r"^\[(?P<time>[^\]]*)\]\[(?P<generator>[^\]]*)\]\[(?P<file>[^\]]*)\]\s*(?P<category>\w+)\s*(?P<body>.*)$"
  /-- The entity that executes when no call is open. -/
  tracedEntity : String := "System"
  /-- The handler for categories without one. -/
  defaultHandler : String := "Action"
  /-- What stands between an object and its method. -/
  scopeMarker : String := "::"
  /-- The handler of each category. -/
  mapping : Dict String String := Dict.ofList [
    ("received", "MessageReceive"), ("sent", "MessageSend"), ("called", "Invoke"),
    ("returned", "Return"), ("state", "StateChange"), ("created", "Create"), ("deleted", "Delete"),
    ("begun", "BeginAction"), ("ended", "EndAction"), ("started", "StartTimer"),
    ("stopped", "StopTimer"), ("expired", "ExpiredTimer"), ("allocated", "Allocate"),
    ("freed", "Free")]
  deriving DecidableEq, Repr

/-- The patterns for the bodies of lines. -/
structure Patterns where
  /-- For a message that reaches an entity. -/
  messageReceive : String :=
    r"^(?P<message>\w+)\s*(?:\((?P<params>[^)]*)\))?\s+from\s+(?P<source>\w+)"
  /-- For a message that leaves an entity. -/
  messageSend : String :=
    r"^(?P<message>\w+)\s*(?:\((?P<params>[^)]*)\))?\s+to\s+(?P<destination>\w+)"
  /-- For a call of a method. -/
  methodInvoke : String := r"^(?P<called>\w+)::(?P<method>\w+)\s*\((?P<params>[^)]*)\)"
  /-- For a call of a function. -/
  functionInvoke : String := r"^(?P<method>\w+)\s*\((?P<params>[^)]*)\)"
  /-- For a return. -/
  methodReturn : String := r"^from\s+(?:(?P<called>\w+)::)?(?P<method>\w+)"
  /-- For a creation. -/
  create : String := r"^(?P<created>\w+)\s*(?:\((?P<params>[^)]*)\))?"
  /-- For a deletion. -/
  delete : String := r"^(?P<deleted>\w+)"
  /-- For what happens to a timer. -/
  timer : String := r"^(?P<timer>\w+)"
  deriving DecidableEq, Repr

/-- The place of a variable in a template. -/
def slot (name : String) : String := "\x7b\x7b " ++ name ++ " \x7d\x7d"

/-- The templates for the text of a diagram. -/
structure Templates where
  /-- For a message. -/
  message : String :=
    slot "message" ++ slot "params" ++ ": " ++ slot "source" ++ " -> " ++ slot "destination"
  /-- For a call. -/
  invoke : String :=
    slot "caller" ++ " invokes " ++ slot "called" ++ "." ++ slot "method" ++ slot "params"
  /-- For a return. -/
  methodReturn : String := slot "called" ++ "." ++ slot "method" ++ " returns"
  /-- For a creation. -/
  create : String := slot "creator" ++ " creates " ++ slot "created" ++ slot "params"
  /-- For a deletion. -/
  delete : String := slot "deletor" ++ " deletes " ++ slot "deleted"
  /-- For a change of state. -/
  stateChange : String := slot "object" ++ " state = \"" ++ slot "state" ++ "\""
  /-- For the start of a timer. -/
  startTimer : String := slot "object" ++ " starts " ++ slot "timer"
  /-- For the stop of a timer. -/
  stopTimer : String := slot "object" ++ " stops " ++ slot "timer"
  /-- For a timer that runs out. -/
  expiredTimer : String := "timeout " ++ slot "timer"
  /-- For an allocation. -/
  allocate : String := slot "object" ++ " allocates \"" ++ slot "resource" ++ "\""
  /-- For the release of a resource. -/
  free : String := slot "object" ++ " frees \"" ++ slot "resource" ++ "\""
  /-- For the begin of an action. -/
  beginAction : String := slot "object" ++ " begins action \"" ++ slot "action" ++ "\""
  /-- For the end of an action. -/
  endAction : String := slot "object" ++ " ends action \"" ++ slot "action" ++ "\""
  /-- For any other action. -/
  action : String := slot "actor" ++ " takes action \"" ++ slot "action" ++ "\""
  /-- For one parameter. -/
  param : String := "\"" ++ slot "attribute" ++ "\" = \"" ++ slot "value" ++ "\""
  /-- For the heading in front of a statement with a bookmark. -/
  bookmark : String := "heading \"" ++ slot "bookmark" ++ "\""
  /-- For the remark below a statement. -/
  remark : String := "(* " ++ slot "time" ++ " " ++ slot "file" ++ " *)"
  deriving DecidableEq, Repr

/-- The templates by name, in order. -/
def Templates.toList (t : Templates) : List (String × String) := [
  ("message", t.message), ("invoke", t.invoke), ("method_return", t.methodReturn),
  ("create", t.create), ("delete", t.delete), ("state_change", t.stateChange),
  ("start_timer", t.startTimer), ("stop_timer", t.stopTimer), ("expired_timer", t.expiredTimer),
  ("allocate", t.allocate), ("free", t.free), ("begin_action", t.beginAction),
  ("end_action", t.endAction), ("action", t.action), ("param", t.param),
  ("bookmark", t.bookmark), ("remark", t.remark)]

/-- How a diagram is laid out. -/
structure Format where
  /-- What stands in front of every line of a statement. -/
  indent : String := "    "
  /-- What stands between a parameter and its value. -/
  attributeValueSeparator : String := "="
  /-- What stands between two parameters. -/
  pairSeparator : String := ","
  /-- The values that get a heading. -/
  bookmarks : TextSet := ∅
  /-- The theme of the diagram. -/
  theme : Option String := none
  /-- The title of the diagram. -/
  featureTitle : String := "generated flow"
  /-- The group of entities without one. -/
  defaultGroup : String := "Component"
  deriving DecidableEq, Repr

/-- How entities are grouped. -/
structure Entities where
  /-- The group of each entity. -/
  parents : Dict String String := ∅
  deriving DecidableEq, Repr

/-- Where files are written. -/
structure Output where
  /-- The document. -/
  document : String := "trace.fdl"
  /-- The project that the document belongs to. -/
  projectFile : String := "project.scn.json"
  deriving DecidableEq, Repr

/-- How the diagram is drawn. -/
structure Renderer where
  /-- Whether it is drawn at all. -/
  enabled : Bool := true
  /-- The program that draws. -/
  executable : Option String := none
  /-- Where that program is looked for if it is not given. -/
  extensionsDir : Option String := none
  /-- What that program is told. -/
  args : List String := ["build", "project.scn.json"]
  deriving DecidableEq, Repr

end Config

/-- All settings. -/
structure Config where
  /-- How the lines of a trace are read. -/
  trace : Config.Trace := {}
  /-- The patterns for the bodies of lines. -/
  patterns : Config.Patterns := {}
  /-- The templates for the text of a diagram. -/
  templates : Config.Templates := {}
  /-- How a diagram is laid out. -/
  format : Config.Format := {}
  /-- How entities are grouped. -/
  entities : Config.Entities := {}
  /-- Where files are written. -/
  output : Config.Output := {}
  /-- How the diagram is drawn. -/
  renderer : Config.Renderer := {}
  deriving DecidableEq, Repr

end TraceDiagram
