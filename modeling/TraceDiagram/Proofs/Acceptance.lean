import TraceDiagram.Proofs.Compiling
import TraceDiagram.Proofs.Default.Document
import TraceDiagram.Proofs.Resolution
import TraceDiagram.Validation

/-! # Accepted configurations

A configuration is looked through before any trace is read, and read again when traces are compiled. The two
ways agree about which configurations can be used.

* **`Findings.errors_ofLinePattern_eq_nil_iff`** and its siblings: when a part of the findings has no error.
* **`ExtractionRules.handlerFor_withDefault`** the default handler has no say in what becomes of a category whose
  own name stands for a handler.
* **`Config.Usable`** what a configuration is good for, once it has been accepted.
* **`accepted_iff_readable`** a configuration without errors is one whose templates, line pattern and rules
  are read and whose handlers are there; and it can be used. -/

namespace TraceDiagram

/-! ## Errors -/

namespace Findings

theorem errors_append (a b : Findings) : (a ++ b).errors = a.errors ++ b.errors := rfl

/-- There is nothing wrong with a line pattern that a reader can use. -/
theorem errors_ofLinePattern_eq_nil_iff (config : Config) :
    (ofLinePattern config).errors = [] ↔ ∃ p, TraceReader.linePatternOf config = .ok p := by
  unfold ofLinePattern TraceReader.linePatternOf
  cases Pattern.compile config.trace.linePattern with
  | error e => simp
  | ok p =>
    -- one side collects the groups that are missing, the other stops at the first
    have hmissing : (requiredGroups.filter fun name => !p.groupNames.contains name) = [] ↔
        (requiredGroups.find? fun name => !p.groupNames.contains name) = none := by
      rw [List.filter_eq_nil_iff, List.find?_eq_none]
    simp only [List.map_eq_nil_iff, hmissing]
    cases requiredGroups.find? fun name => !p.groupNames.contains name <;> simp

/-- There is nothing wrong with rules that are read and use only names of handlers. -/
theorem errors_ofRules_eq_nil_iff (config : Config) : (ofRules config).errors = [] ↔
    ∃ rules, ExtractionRules.ofConfig config = .ok rules ∧ rules.unresolved = [] := by
  unfold ofRules
  cases ExtractionRules.ofConfig config <;> simp

/-- There is nothing wrong with templates that are read. -/
theorem errors_ofTemplates_eq_nil_iff (config : Config) : (ofTemplates config).errors = [] ↔
    ∃ wording, Wording.ofTemplates config.templates = .ok wording := by
  unfold ofTemplates Wording.ofTemplates
  cases Library.ofList config.templates.toList <;> simp [bind, Except.bind, pure, Except.pure]

/-- The errors about a configuration are those about its parts; there is never one about the format. -/
theorem errors_ofConfig (config : Config) : (ofConfig config).errors =
    (ofLinePattern config).errors ++ (ofRules config).errors ++ (ofTemplates config).errors := by
  have hformat : (ofFormat config.format).errors = [] := rfl
  rw [ofConfig, errors_append, errors_append, errors_append, hformat, List.append_nil]

/-- A configuration has no error if none of its parts has one. -/
theorem errors_ofConfig_eq_nil_iff (config : Config) : (ofConfig config).errors = [] ↔
    (ofLinePattern config).errors = [] ∧ (ofRules config).errors = [] ∧
      (ofTemplates config).errors = [] := by
  rw [errors_ofConfig, List.append_eq_nil_iff, List.append_eq_nil_iff, and_assoc]

end Findings

/-! ## Names of handlers -/

namespace ExtractionRules

variable {rules : ExtractionRules}

/-- The rules with another default handler. -/
def withDefault (rules : ExtractionRules) (name : String) : ExtractionRules :=
  { rules with defaultHandler := name }

/-- A category whose own name stands for a handler goes to that handler, whatever the default handler is. -/
theorem handlerFor_withDefault {category name : String} {handler : Handler}
    (hname : rules.mapping.get? category = some name) (hget : rules.handler? name = some handler)
    (other : String) : (rules.withDefault other).handlerFor category = handler := by
  have hown : ((rules.withDefault other).mapping.get? category).bind
      (rules.withDefault other).handler? = some handler := by
    change (rules.mapping.get? category).bind rules.handler? = some handler
    rw [hname, Option.bind_some, hget]
  rw [handlerFor, hown]

end ExtractionRules

/-! ## Use -/

/-- What a configuration is good for. -/
structure Config.Usable (config : Config) : Prop where
  /-- Its templates are read, and so are its patterns. -/
  readers : ∃ c r, Compiler.ofConfig config = .ok c ∧ c.reader = .ok r
  /-- Each trace has a document, or fails because a statement cannot be put into words. -/
  outcomes : ∀ trace, (∃ text, (compile config trace).1 = .ok text) ∨
    ∃ place template detail, (compile config trace).1 = .error (.statement place template detail)
  /-- A line of a category of the mapping goes to the handler that is registered under the category's own
  name, whatever the default handler is. -/
  dispatch : ∀ r, TraceReader.ofConfig config = .ok r → ∀ category name,
    config.trace.mapping.get? category = some name → ∃ handler,
      r.rules.handler? name = some handler ∧ ∀ other fields stack, fields.category = category →
        (r.rules.withDefault other).construct fields stack = handler r.rules.patterns fields stack

/-- A configuration whose templates and patterns are read and whose names of handlers are resolved can be
used. -/
theorem Config.usable_of_readers {config : Config} {wording : Wording} {r : TraceReader}
    {rules : ExtractionRules} (hwording : Wording.ofTemplates config.templates = .ok wording)
    (hr : TraceReader.ofConfig config = .ok r) (hrules : ExtractionRules.ofConfig config = .ok rules)
    (hresolved : rules.unresolved = []) : config.Usable := by
  have hc : Compiler.ofConfig config = .ok ⟨config, wording⟩ := Compiler.ofConfig_of_ok hwording
  have hreader : (Compiler.mk config wording).reader = .ok r :=
    ((Compiler.mk config wording).reader_eq_ok_iff r).2 hr
  refine ⟨⟨_, r, hc, hreader⟩, fun trace => ?_, fun other hother category name hname => ?_⟩
  · rw [compile_of_readers hc hreader]
    exact Layout.document_cases _ _
  · -- the reader has the rules of the configuration, whose mapping uses the name
    obtain ⟨p, own, -, hown, rfl⟩ := (TraceReader.ofConfig_eq_ok_iff config other).1 hother
    obtain rfl : rules = own := Except.ok.inj (hrules.symm.trans hown)
    obtain ⟨patterns, -, hrules⟩ := (ExtractionRules.ofConfig_eq_ok_iff config rules).1 hrules
    have hname : rules.mapping.get? category = some name := by
      rw [← hrules]
      exact hname
    have hused := (rules.mem_usedNames_iff name).2 (.inl ⟨category, hname⟩)
    obtain ⟨handler, hhandler⟩ := rules.unresolved_eq_nil_iff.1 hresolved name hused
    refine ⟨handler, hhandler, fun default fields stack hcategory => ?_⟩
    have hfor : (rules.withDefault default).handlerFor category = handler :=
      ExtractionRules.handlerFor_withDefault hname hhandler default
    change (rules.withDefault default).construct fields stack = _
    rw [ExtractionRules.construct, hcategory, hfor]
    rfl

/-- A configuration has no error if its templates are read, it has a reader, and all names of handlers in it
are resolved. -/
theorem Findings.errors_eq_nil_iff_readers (config : Config) : (ofConfig config).errors = [] ↔
    (∃ wording, Wording.ofTemplates config.templates = .ok wording) ∧
    (∃ r, TraceReader.ofConfig config = .ok r) ∧
    ∃ rules, ExtractionRules.ofConfig config = .ok rules ∧ rules.unresolved = [] := by
  rw [errors_ofConfig_eq_nil_iff, errors_ofLinePattern_eq_nil_iff, errors_ofRules_eq_nil_iff,
    errors_ofTemplates_eq_nil_iff]
  constructor
  · rintro ⟨⟨p, hp⟩, ⟨rules, hrules, hresolved⟩, hwording⟩
    have hr := (TraceReader.ofConfig_eq_ok_iff config _).2 ⟨p, rules, hp, hrules, rfl⟩
    exact ⟨hwording, ⟨_, hr⟩, rules, hrules, hresolved⟩
  · rintro ⟨hwording, ⟨r, hr⟩, hresolved⟩
    obtain ⟨p, -, hp, -⟩ := (TraceReader.ofConfig_eq_ok_iff config r).1 hr
    exact ⟨⟨p, hp⟩, hresolved, hwording⟩

/-- **What is accepted can be used, and nothing else is accepted.** For every configuration: looking it
through finds no error exactly if its templates are read, it has a reader and no name of a handler is
unresolved; and then every trace has a document or fails because of a statement, and each category of the
mapping goes to the handler of its own name. -/
theorem accepted_iff_readable (config : Config) :
    ((Findings.ofConfig config).errors = [] ↔
      (∃ wording, Wording.ofTemplates config.templates = .ok wording) ∧
      (∃ r, TraceReader.ofConfig config = .ok r) ∧
      ∃ rules, ExtractionRules.ofConfig config = .ok rules ∧ rules.unresolved = []) ∧
    ((Findings.ofConfig config).errors = [] → config.Usable) := by
  refine ⟨Findings.errors_eq_nil_iff_readers config, fun haccepted => ?_⟩
  obtain ⟨⟨wording, hwording⟩, ⟨r, hr⟩, rules, hrules, hresolved⟩ :=
    (Findings.errors_eq_nil_iff_readers config).1 haccepted
  exact Config.usable_of_readers hwording hr hrules hresolved

/-- The default configuration is accepted and can be used. -/
theorem accepted_default : (Findings.ofConfig {}).errors = [] ∧ ({} : Config).Usable := by
  have haccepted : (Findings.ofConfig {}).errors = [] :=
    (accepted_iff_readable {}).1.2 ⟨⟨_, ofTemplates_default⟩, ⟨_, ofConfig_default⟩, _,
      rules_ofConfig_default, by decide +kernel⟩
  exact ⟨haccepted, (accepted_iff_readable {}).2 haccepted⟩

end TraceDiagram
