import TraceDiagram.Trace

/-! # The default patterns

The patterns of the default configuration as trees, and the reader that they make up.

* **`DefaultPattern.line`** and its siblings are the trees; **`DefaultPattern.compile_written`** says that
  the written forms are read as them.
* **`defaultReader`** the reader of the default configuration, by **`ofConfig_default`**. -/

namespace TraceDiagram

open Pattern (Node)

namespace DefaultPattern

/-! ## Parts -/

/-- A word, remembered as group `index`. -/
def word (index : Nat) : Node := .group index (.span .word 1 none true)

/-- White space, at least `least` characters of it. -/
def blanks (least : Nat) : Node := .span .space least none true

/-- One given character. -/
def mark (c : Char) : Node := .one (.single c)

/-- Any characters but `c`, remembered as group `index`. -/
def without (index : Nat) (c : Char) : Node :=
  .group index (.span (.compl (.union .none (.single c))) 0 none true)

/-- The rest of a line, remembered as group `index`. -/
def restOfLine (index : Nat) : Node := .group index (.span (.compl (.single '\n')) 0 none true)

/-- A list of parameters in parentheses, remembered as group `index`. -/
def params (index : Nat) : List Node := [mark '(', without index ')', mark ')']

/-- Part of a pattern that may be missing. -/
def optionally (parts : List Node) : Node := .loop (.sequence parts) 0 (some 1) true

/-- A pattern that matches some parts from the start of a text on, with the names of its groups. -/
def ofParts (parts : List Node) (names : List String) : Pattern where
  node := .group 0 (.sequence (.check .textStart :: parts))
  names := none :: names.map some

/-! ## Trees -/

/-- The pattern for lines. -/
def line : Pattern :=
  ofParts [mark '[', without 1 ']', mark ']', mark '[', without 2 ']', mark ']', mark '[', without 3 ']',
    mark ']', blanks 0, word 4, blanks 0, restOfLine 5, .check .textEnd]
    ["time", "generator", "file", "category", "body"]

/-- A message with its parameters, a keyword and the entity at the other end. -/
def message (keyword : List Char) (peer : String) : Pattern :=
  ofParts ([word 1, blanks 0, optionally (params 2), blanks 1] ++ keyword.map mark
    ++ [blanks 1, word 3]) ["message", "params", peer]

/-- The pattern for messages that reach an entity. -/
def messageReceive : Pattern := message ['f', 'r', 'o', 'm'] "source"

/-- The pattern for messages that leave an entity. -/
def messageSend : Pattern := message ['t', 'o'] "destination"

/-- The pattern for calls of methods. -/
def methodInvoke : Pattern :=
  ofParts ([word 1, mark ':', mark ':', word 2, blanks 0] ++ params 3) ["called", "method", "params"]

/-- The pattern for calls of functions. -/
def functionInvoke : Pattern := ofParts ([word 1, blanks 0] ++ params 2) ["method", "params"]

/-- The pattern for returns. -/
def methodReturn : Pattern :=
  ofParts [mark 'f', mark 'r', mark 'o', mark 'm', blanks 1, optionally [word 1, mark ':', mark ':'],
    word 2] ["called", "method"]

/-- The pattern for creations. -/
def create : Pattern := ofParts [word 1, blanks 0, optionally (params 2)] ["created", "params"]

/-- The pattern for deletions. -/
def delete : Pattern := ofParts [word 1] ["deleted"]

/-- The pattern for timers. -/
def timer : Pattern := ofParts [word 1] ["timer"]

/-! ## Reading the written forms -/

/-- A pattern is read as a tree if it is read as that tree or refused, and not refused. -/
theorem compile_eq_ok {text : String} {p : Pattern} (h : (Pattern.compile text).toOption = some p) :
    Pattern.compile text = .ok p := by
  cases hc : Pattern.compile text with
  | error e => simp [hc, Except.toOption] at h
  | ok q =>
    rw [hc, Except.toOption, Option.some_inj] at h
    rw [h]

/-- The patterns as they are written, each with its tree. -/
def written : List (String × Pattern) :=
  let config : Config := {}
  [(config.trace.linePattern, line), (config.patterns.messageReceive, messageReceive),
    (config.patterns.messageSend, messageSend), (config.patterns.methodInvoke, methodInvoke),
    (config.patterns.functionInvoke, functionInvoke), (config.patterns.methodReturn, methodReturn),
    (config.patterns.create, create), (config.patterns.delete, delete), (config.patterns.timer, timer)]

/-- **Each of the patterns is read as its tree.** -/
theorem compile_written {text : String} {p : Pattern} (h : (text, p) ∈ written) :
    Pattern.compile text = .ok p := by
  have hall : ∀ entry ∈ written, (Pattern.compile entry.1).toOption = some entry.2 := by decide +kernel
  exact compile_eq_ok (hall (text, p) h)

end DefaultPattern

/-! ## The reader -/

/-- The patterns for bodies of the default configuration. -/
def defaultBodyPatterns : BodyPatterns where
  messageReceive := DefaultPattern.messageReceive
  messageSend := DefaultPattern.messageSend
  methodInvoke := DefaultPattern.methodInvoke
  functionInvoke := DefaultPattern.functionInvoke
  methodReturn := DefaultPattern.methodReturn
  create := DefaultPattern.create
  delete := DefaultPattern.delete
  timer := DefaultPattern.timer
  scopeMarker := "::"
  paramSyntax := { valueSeparator := "=", pairSeparator := "," }

/-- The rules of the default configuration. -/
def defaultRules : ExtractionRules where
  patterns := defaultBodyPatterns
  handlers := builtinHandlers
  mapping := ({} : Config).trace.mapping
  defaultHandler := "Action"

/-- The reader of the default configuration. -/
def defaultReader : TraceReader where
  linePattern := DefaultPattern.line
  rules := defaultRules
  tracedEntity := "System"
  parents := ∅

/-- A configuration with the default patterns, but for the one for timers, has these for bodies, whatever marker
and form of parameters it asks for. -/
theorem bodyPatterns_ofConfig_of_timer {config : Config} {text : String} {p : Pattern}
    (h : config.patterns = { timer := text }) (htimer : Pattern.compile text = .ok p) :
    BodyPatterns.ofConfig config = .ok { defaultBodyPatterns with
      timer := p
      scopeMarker := config.trace.scopeMarker
      paramSyntax := BodyPatterns.paramSyntaxOf config.format } := by
  have hread : ∀ entry ∈ DefaultPattern.written, Pattern.compile entry.1 = .ok entry.2 :=
    fun _ h => DefaultPattern.compile_written h
  have hpatterns : config.patterns = { ({} : Config).patterns with timer := text } := h
  simp only [DefaultPattern.written, List.forall_mem_cons] at hread
  obtain ⟨-, hreceive, hsend, hmethod, hfunction, hreturn, hcreate, hdelete, -, -⟩ := hread
  rw [BodyPatterns.ofConfig, hpatterns, hreceive, hsend, hmethod, hfunction, hreturn, hcreate, hdelete,
    htimer]
  rfl

/-- One that has that one as well has all of them. -/
theorem bodyPatterns_ofConfig_of_patterns {config : Config} (h : config.patterns = {}) :
    BodyPatterns.ofConfig config = .ok { defaultBodyPatterns with
      scopeMarker := config.trace.scopeMarker
      paramSyntax := BodyPatterns.paramSyntaxOf config.format } := by
  have htimer : Pattern.compile ({} : Config).patterns.timer = .ok DefaultPattern.timer :=
    DefaultPattern.compile_written (by simp [DefaultPattern.written])
  exact bodyPatterns_ofConfig_of_timer h htimer

theorem bodyPatterns_ofConfig_default : BodyPatterns.ofConfig {} = .ok defaultBodyPatterns :=
  bodyPatterns_ofConfig_of_patterns rfl

theorem rules_ofConfig_default : ExtractionRules.ofConfig {} = .ok defaultRules := by
  rw [ExtractionRules.ofConfig, bodyPatterns_ofConfig_default]
  rfl

/-- A configuration with the default pattern for lines has it as a tree. -/
theorem linePatternOf_of_linePattern {config : Config}
    (h : config.trace.linePattern = ({} : Config).trace.linePattern) :
    TraceReader.linePatternOf config = .ok DefaultPattern.line := by
  have hline : Pattern.compile ({} : Config).trace.linePattern = .ok DefaultPattern.line :=
    DefaultPattern.compile_written List.mem_cons_self
  rw [TraceReader.linePatternOf, h, hline]
  rfl

theorem linePatternOf_default : TraceReader.linePatternOf {} = .ok DefaultPattern.line :=
  linePatternOf_of_linePattern rfl

/-- The default configuration has a reader: all its patterns are read, and the one for lines has the groups
that it needs. -/
theorem ofConfig_default : TraceReader.ofConfig {} = .ok defaultReader := by
  rw [TraceReader.ofConfig, linePatternOf_default, rules_ofConfig_default]
  rfl

end TraceDiagram
