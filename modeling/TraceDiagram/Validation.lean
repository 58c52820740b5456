import TraceDiagram.Failure

/-! # Validation

* **`Findings`** the errors and warnings about a configuration, as texts.
* **`Findings.ofConfig`** looks a configuration through: the line pattern, the rules, the templates, and what
  would have no effect.
-/

namespace TraceDiagram

/-- The errors and warnings about a configuration. -/
structure Findings where
  /-- What keeps the configuration from being used. -/
  errors : List String
  /-- What will not do what is expected. -/
  warnings : List String
  deriving DecidableEq, Repr

/-- The groups that a line pattern had better have. -/
def wantedGroups : List String := ["time", "file", "generator"]

namespace Findings

/-- Findings together. -/
def append (a b : Findings) : Findings := ⟨a.errors ++ b.errors, a.warnings ++ b.warnings⟩

instance : Append Findings := ⟨append⟩

/-- Whether there is no error. -/
def isValid (f : Findings) : Bool := f.errors.isEmpty

/-- About the line pattern. -/
def ofLinePattern (config : Config) : Findings :=
  match Pattern.compile config.trace.linePattern with
  | .error e => ⟨["Invalid line regex: " ++ e.message], []⟩
  | .ok p =>
    let missing := fun (names : List String) => names.filter fun name => !p.groupNames.contains name
    ⟨(missing requiredGroups).map fun name => "Line regex has no '" ++ name ++ "' group",
      (missing wantedGroups).map fun name =>
        "Line regex has no '" ++ name ++ "' group; it will be empty in remarks"⟩

/-- About the patterns for bodies and the handlers. -/
def ofRules (config : Config) : Findings :=
  match ExtractionRules.ofConfig config with
  | .error e => ⟨[(Failure.pattern e).message], []⟩
  | .ok rules => ⟨rules.unresolved.map fun name => "Unknown handler '" ++ name ++ "'", []⟩

/-- About the templates. -/
def ofTemplates (config : Config) : Findings :=
  match Library.ofList config.templates.toList with
  | .error e => ⟨[(Failure.template e).message], []⟩
  | .ok _ => ⟨[], []⟩

/-- About parameters and bookmarks. -/
def ofFormat (format : Config.Format) : Findings :=
  ⟨[], (if format.attributeValueSeparator.isEmpty then
      ["Empty attribute/value separator disables parameter parsing"] else [])
    ++ (format.bookmarks.items.filter fun b => (Text.trim b).isEmpty).map fun _ =>
      "Blank bookmark entry never matches"⟩

/-- About a whole configuration. -/
def ofConfig (config : Config) : Findings :=
  ofLinePattern config ++ ofRules config ++ ofTemplates config ++ ofFormat config.format

end Findings

end TraceDiagram
