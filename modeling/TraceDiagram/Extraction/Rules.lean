import TraceDiagram.Extraction.Handler

/-! # Rules

Which handler takes care of which category.

* **`ExtractionRules`** the patterns, the handlers by name and the name for each category.
* **`ExtractionRules.handlerFor`** the handler for a category.
* **`ExtractionRules.unresolved`** the names that stand for no handler.
-/

namespace TraceDiagram

/-- Which handler takes care of which category. -/
structure ExtractionRules where
  /-- The patterns for bodies. -/
  patterns : BodyPatterns
  /-- The handlers by name. -/
  handlers : Dict String Handler
  /-- The name of the handler for each category. -/
  mapping : Dict String String
  /-- The name of the handler for other categories. -/
  defaultHandler : String

namespace ExtractionRules

/-- The rules of a configuration, with the handlers that there are. -/
def ofConfig (config : Config) : Except Pattern.PatternError ExtractionRules := do
  let patterns ← BodyPatterns.ofConfig config
  return {
    patterns := patterns
    handlers := builtinHandlers
    mapping := config.trace.mapping
    defaultHandler := config.trace.defaultHandler }

/-- Gives a handler a name, in place of the one that had it. -/
def register (r : ExtractionRules) (name : String) (handler : Handler) : ExtractionRules :=
  { r with handlers := r.handlers.insert name handler }

/-- The handler that a name stands for. -/
def handler? (r : ExtractionRules) (name : String) : Option Handler := r.handlers.get? name

/-- The handler for a category: its own, or the default one, or else the one for any action. -/
def handlerFor (r : ExtractionRules) (category : String) : Handler :=
  match (r.mapping.get? category).bind r.handler? with
  | some handler => handler
  | none => (r.handler? r.defaultHandler).getD Handler.genericAction

/-- Makes a statement of a line. -/
def construct (r : ExtractionRules) (line : LineFields) (stack : CallStack) :
    Option Statement × CallStack :=
  r.handlerFor line.category r.patterns line stack

/-- The names of handlers that are used. -/
def usedNames (r : ExtractionRules) : List String := r.mapping.values ++ [r.defaultHandler]

/-- The names that are used and stand for no handler, in order, each once. -/
def unresolved (r : ExtractionRules) : List String :=
  (TextSet.ofList (r.usedNames.filter fun name => !r.handlers.contains name)).items

end ExtractionRules

end TraceDiagram
