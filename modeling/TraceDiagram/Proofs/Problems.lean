import Mathlib.Data.List.Nodup
import TraceDiagram.Proofs.Acceptance

/-! # Problems of configurations

What is wrong with a configuration, and what is said about it when the configuration is looked through.

* **`Problem`** something that is wrong, with its text; **`Problem.OccursIn`** when it is.
* **`Problem.HiddenIn`** when another problem keeps it from being reported: the patterns for bodies are read up to
  the first that is refused, and the names of handlers only after all of them.
* **`Tells`** errors that are the texts of problems of a kind, each once; **`Findings.tells_ofRules`** and its
  siblings are about the parts of the findings.
* **`problems_reported`** the errors about a configuration are the texts of its problems but for those that are
  hidden, and nothing about one part hides anything about another.
* **`problems_hidden`** three problems of which one is reported. -/

namespace TraceDiagram

/-! ## Faults -/

section Fault

variable {ε α β : Type}

/-- Why there is no result, if there is none. -/
def fault? : Except ε α → Option ε
  | .error e => some e
  | .ok _ => none

theorem fault?_eq_some_iff {x : Except ε α} {e : ε} : fault? x = some e ↔ x = .error e := by
  cases x <;> simp [fault?]

/-- The first of two steps that fails decides. -/
theorem fault?_bind {x : Except ε α} {f : α → Except ε β} {later : Option ε} (hf : ∀ a, fault? (f a) = later) :
    fault? (x >>= f) = (fault? x).or later := by
  cases x with
  | error e => rfl
  | ok a => exact hf a

end Fault

/-- The patterns for bodies, in the order in which they are read. -/
def Config.Patterns.toList (p : Config.Patterns) : List String := [
  p.messageReceive, p.messageSend, p.methodInvoke, p.functionInvoke, p.methodReturn, p.create, p.delete, p.timer]

/-- The first pattern for bodies that is refused decides. -/
theorem BodyPatterns.fault?_ofConfig (config : Config) : fault? (ofConfig config) =
    config.patterns.toList.findSome? fun text => fault? (Pattern.compile text) := by
  have hcons : ∀ (text : String) (texts : List String),
      ((text :: texts).findSome? fun text => fault? (Pattern.compile text)) =
        (fault? (Pattern.compile text)).or (texts.findSome? fun text => fault? (Pattern.compile text)) := by
    intro text texts
    rw [List.findSome?_cons]
    cases fault? (Pattern.compile text) <;> rfl
  simp only [Config.Patterns.toList, hcons]
  -- one step for each pattern, and the last one cannot fail
  iterate 8 refine fault?_bind fun _ => ?_
  rfl

/-! ## Problems -/

/-- A part of the findings about a configuration. -/
inductive Part where
  /-- About the line pattern. -/
  | line
  /-- About the patterns for bodies and the handlers. -/
  | rules
  /-- About the templates. -/
  | templates
  deriving DecidableEq, Repr

/-- Something that may be wrong with a configuration. -/
inductive Problem where
  /-- The line pattern is refused. -/
  | linePattern (cause : Pattern.PatternError)
  /-- The line pattern lacks a group that it has to have. -/
  | missingGroup (name : String)
  /-- One of the patterns for bodies is refused. -/
  | bodyPattern (place : Nat) (cause : Pattern.PatternError)
  /-- A name that is used stands for no handler. -/
  | unknownHandler (name : String)
  /-- The templates are refused. -/
  | templates (cause : LibraryError)
  deriving DecidableEq, Repr

namespace Problem

/-- The text for the problem. -/
def message : Problem → String
  | linePattern cause => "Invalid line regex: " ++ cause.message
  | missingGroup name => "Line regex has no '" ++ name ++ "' group"
  | bodyPattern _ cause => "Invalid pattern: " ++ cause.message
  | unknownHandler name => "Unknown handler '" ++ name ++ "'"
  | templates cause => "Template error: " ++ cause.message

/-- The part of the findings that the problem belongs to. -/
def part : Problem → Part
  | linePattern _ | missingGroup _ => .line
  | bodyPattern _ _ | unknownHandler _ => .rules
  | templates _ => .templates

/-- When something is wrong with a configuration. -/
inductive OccursIn (config : Config) : Problem → Prop where
  /-- Its line pattern is refused. -/
  | linePattern {cause : Pattern.PatternError}
      (hrefused : Pattern.compile config.trace.linePattern = .error cause) : OccursIn config (.linePattern cause)
  /-- Its line pattern is one, but does not have a group of that name. -/
  | missingGroup {p : Pattern} {name : String} (hread : Pattern.compile config.trace.linePattern = .ok p)
      (hrequired : name ∈ requiredGroups) (hmissing : name ∉ p.groupNames) : OccursIn config (.missingGroup name)
  /-- Its pattern for bodies at that place is refused. -/
  | bodyPattern {place : Nat} {text : String} {cause : Pattern.PatternError}
      (hplace : config.patterns.toList[place]? = some text) (hrefused : Pattern.compile text = .error cause) :
      OccursIn config (.bodyPattern place cause)
  /-- A category of its mapping has that name, or it is the default name, and there is no such handler. -/
  | unknownHandler {name : String}
      (hused : name ∈ config.trace.mapping.values ∨ name = config.trace.defaultHandler)
      (hunknown : name ∉ builtinHandlers.keys) : OccursIn config (.unknownHandler name)
  /-- Its templates are refused. -/
  | templates {cause : LibraryError} (hrefused : Library.ofList config.templates.toList = .error cause) :
      OccursIn config (.templates cause)

/-- When something that is wrong goes unnoticed: behind a pattern for bodies that is refused, neither the other
patterns for bodies nor the names of handlers are looked at. -/
def HiddenIn (config : Config) : Problem → Prop
  | bodyPattern place _ => ∃ earlier cause, earlier < place ∧ OccursIn config (.bodyPattern earlier cause)
  | unknownHandler _ => ∃ place cause, OccursIn config (.bodyPattern place cause)
  | _ => False

/-- What is wrong with a configuration and does not go unnoticed. -/
def ShowsIn (config : Config) (problem : Problem) : Prop := problem.OccursIn config ∧ ¬problem.HiddenIn config

end Problem

/-- Errors that are the texts of the problems of a kind, each problem once. -/
def Tells (errors : List String) (kind : Problem → Prop) : Prop :=
  ∃ problems : List Problem, errors = problems.map Problem.message ∧ problems.Nodup ∧
    ∀ problem, problem ∈ problems ↔ kind problem

namespace Tells

variable {errors more : List String} {kind other : Problem → Prop}

theorem congr (h : Tells errors kind) (hkind : ∀ problem, kind problem ↔ other problem) : Tells errors other := by
  obtain ⟨problems, herrors, hnodup, hmem⟩ := h
  exact ⟨problems, herrors, hnodup, fun problem => (hmem problem).trans (hkind problem)⟩

/-- Errors about different problems may stand one behind the other. -/
theorem append (h : Tells errors kind) (h' : Tells more other) (hne : ∀ problem, kind problem → ¬other problem) :
    Tells (errors ++ more) fun problem => kind problem ∨ other problem := by
  obtain ⟨problems, rfl, hnodup, hmem⟩ := h
  obtain ⟨problems', rfl, hnodup', hmem'⟩ := h'
  refine ⟨problems ++ problems', by simp, List.nodup_append.2 ⟨hnodup, hnodup', ?_⟩, fun problem => ?_⟩
  · rintro problem hproblem _ hproblem' rfl
    exact hne problem ((hmem problem).1 hproblem) ((hmem' problem).1 hproblem')
  · rw [List.mem_append, hmem, hmem']

theorem nothing (hkind : ∀ problem, ¬kind problem) : Tells [] kind :=
  ⟨[], rfl, List.nodup_nil, fun problem => by simpa using hkind problem⟩

/-- There is one problem of the kind. -/
theorem single (only : Problem) (hkind : ∀ problem, kind problem ↔ problem = only) :
    Tells [only.message] kind := by
  refine ⟨[only], rfl, List.nodup_singleton only, fun problem => ?_⟩
  rw [hkind, List.mem_singleton]

/-- There is one problem of the kind for each of some names. -/
theorem ofNames {names : List String} (problemOf : String → Problem) (hinjective : Function.Injective problemOf)
    (hnames : names.Nodup) (hkind : ∀ problem, kind problem ↔ ∃ name ∈ names, problemOf name = problem) :
    Tells (names.map fun name => (problemOf name).message) kind := by
  refine ⟨names.map problemOf, by simp, List.Nodup.map hinjective hnames, fun problem => ?_⟩
  rw [hkind, List.mem_map]

end Tells

/-! ## Patterns for bodies -/

section Bodies

variable {config : Config}

theorem occursIn_bodyPattern_iff {place : Nat} {cause : Pattern.PatternError} :
    Problem.OccursIn config (.bodyPattern place cause) ↔
      ∃ text, config.patterns.toList[place]? = some text ∧ Pattern.compile text = .error cause :=
  ⟨fun | .bodyPattern hplace hrefused => ⟨_, hplace, hrefused⟩,
    fun ⟨_, hplace, hrefused⟩ => .bodyPattern hplace hrefused⟩

/-- If the patterns for bodies are read then none of them is refused. -/
theorem not_occursIn_of_patterns {patterns : BodyPatterns} (h : BodyPatterns.ofConfig config = .ok patterns)
    (place : Nat) (cause : Pattern.PatternError) : ¬Problem.OccursIn config (.bodyPattern place cause) := by
  rw [occursIn_bodyPattern_iff]
  rintro ⟨text, hplace, hrefused⟩
  have hnone := BodyPatterns.fault?_ofConfig config
  rw [h, fault?, eq_comm, List.findSome?_eq_none_iff] at hnone
  have htext := hnone text (List.mem_of_getElem? hplace)
  rw [fault?_eq_some_iff.2 hrefused] at htext
  cases htext

/-- If they are not then it is because of the first one that is refused. -/
theorem exists_first_of_patterns {cause : Pattern.PatternError} (h : BodyPatterns.ofConfig config = .error cause) :
    ∃ place, Problem.OccursIn config (.bodyPattern place cause) ∧
      ∀ earlier < place, ∀ other, ¬Problem.OccursIn config (.bodyPattern earlier other) := by
  have hfirst := BodyPatterns.fault?_ofConfig config
  rw [h, fault?, eq_comm, List.findSome?_eq_some_iff] at hfirst
  obtain ⟨before, text, after, hlist, hrefused, hbefore⟩ := hfirst
  refine ⟨before.length, .bodyPattern (by simp [hlist]) (fault?_eq_some_iff.1 hrefused), ?_⟩
  intro earlier hearlier other hoccurs
  obtain ⟨text, hplace, hother⟩ := occursIn_bodyPattern_iff.1 hoccurs
  rw [hlist, List.getElem?_append_left hearlier] at hplace
  have htext := hbefore text (List.mem_of_getElem? hplace)
  rw [fault?_eq_some_iff.2 hother] at htext
  cases htext

/-- Two patterns for bodies that are refused and do not go unnoticed are one. -/
theorem eq_of_showsIn {place other : Nat} {cause cause' : Pattern.PatternError}
    (h : Problem.ShowsIn config (.bodyPattern place cause))
    (h' : Problem.ShowsIn config (.bodyPattern other cause')) :
    Problem.bodyPattern other cause' = .bodyPattern place cause := by
  have hplace : other = place := by
    rcases Nat.lt_trichotomy other place with hlt | heq | hgt
    · exact absurd ⟨other, cause', hlt, h'.1⟩ h.2
    · exact heq
    · exact absurd ⟨place, cause, hgt, h.1⟩ h'.2
  subst hplace
  obtain ⟨text, htext, hrefused⟩ := occursIn_bodyPattern_iff.1 h.1
  obtain ⟨text', htext', hrefused'⟩ := occursIn_bodyPattern_iff.1 h'.1
  obtain rfl := Option.some.inj (htext.symm.trans htext')
  rw [Except.error.inj (hrefused.symm.trans hrefused')]

/-- Only patterns for bodies can keep the rules from being made. -/
theorem ofConfig_eq_error {cause : Pattern.PatternError} (h : ExtractionRules.ofConfig config = .error cause) :
    BodyPatterns.ofConfig config = .error cause := by
  have hmade : fault? (ExtractionRules.ofConfig config) = (fault? (BodyPatterns.ofConfig config)).or none :=
    fault?_bind fun _ => rfl
  rw [Option.or_none, h] at hmade
  exact fault?_eq_some_iff.1 hmade.symm

/-- The names that the rules of a configuration report are those that it uses and that no handler has. -/
theorem mem_unresolved_ofConfig {rules : ExtractionRules} (h : ExtractionRules.ofConfig config = .ok rules)
    (name : String) : name ∈ rules.unresolved ↔
      (name ∈ config.trace.mapping.values ∨ name = config.trace.defaultHandler) ∧ name ∉ builtinHandlers.keys := by
  obtain ⟨_, -, hmade⟩ := (ExtractionRules.ofConfig_eq_ok_iff config rules).1 h
  rw [(ExtractionRules.holds_builtin h).resolves.mem_unresolved_iff, ← hmade]
  rfl

end Bodies

/-! ## Findings -/

namespace Findings

variable (config : Config)

/-- Of the line pattern, everything that is wrong is reported. -/
theorem tells_ofLinePattern :
    Tells (ofLinePattern config).errors fun problem => problem.ShowsIn config ∧ problem.part = .line := by
  unfold ofLinePattern
  cases hread : Pattern.compile config.trace.linePattern with
  | error cause =>
    refine Tells.single (.linePattern cause) fun problem => ?_
    constructor
    · rintro ⟨⟨hoccurs, -⟩, hpart⟩
      cases hoccurs with
      | linePattern hrefused => rw [Except.error.inj (hread.symm.trans hrefused)]
      | missingGroup hother => cases hread.symm.trans hother
      | bodyPattern | unknownHandler | templates => cases hpart
    · rintro rfl
      exact ⟨⟨.linePattern hread, id⟩, rfl⟩
  | ok p =>
    refine Tells.ofNames .missingGroup (fun _ _ => Problem.missingGroup.inj)
      (List.Nodup.filter _ (by decide)) fun problem => ?_
    constructor
    · rintro ⟨⟨hoccurs, -⟩, hpart⟩
      cases hoccurs with
      | linePattern hrefused => cases hread.symm.trans hrefused
      | missingGroup hother hrequired hmissing =>
        obtain rfl := Except.ok.inj (hread.symm.trans hother)
        exact ⟨_, List.mem_filter.2 ⟨hrequired, by simpa using hmissing⟩, rfl⟩
      | bodyPattern | unknownHandler | templates => cases hpart
    · rintro ⟨name, hname, rfl⟩
      obtain ⟨hrequired, hmissing⟩ := List.mem_filter.1 hname
      exact ⟨⟨.missingGroup hread hrequired (by simpa using hmissing), id⟩, rfl⟩

/-- Of the rules, only the first pattern for bodies that is refused is reported, and the names that stand for no
handler if there is none such. -/
theorem tells_ofRules :
    Tells (ofRules config).errors fun problem => problem.ShowsIn config ∧ problem.part = .rules := by
  unfold ofRules
  cases hrules : ExtractionRules.ofConfig config with
  | error cause =>
    have hbodies := ofConfig_eq_error hrules
    obtain ⟨place, hoccurs, hfirst⟩ := exists_first_of_patterns hbodies
    have hshows : Problem.ShowsIn config (.bodyPattern place cause) :=
      ⟨hoccurs, fun ⟨earlier, other, hlt, hother⟩ => hfirst earlier hlt other hother⟩
    refine Tells.single (.bodyPattern place cause) fun problem => ?_
    constructor
    · rintro ⟨hproblem, hpart⟩
      cases problem with
      | bodyPattern => exact eq_of_showsIn hshows hproblem
      | unknownHandler => exact absurd ⟨place, cause, hoccurs⟩ hproblem.2
      | linePattern | missingGroup | templates => cases hpart
    · rintro rfl
      exact ⟨hshows, rfl⟩
  | ok rules =>
    obtain ⟨patterns, hbodies, -⟩ := (ExtractionRules.ofConfig_eq_ok_iff config rules).1 hrules
    refine Tells.ofNames .unknownHandler (fun _ _ => Problem.unknownHandler.inj) (TextSet.nodup_items _)
      fun problem => ?_
    constructor
    · rintro ⟨⟨hoccurs, -⟩, hpart⟩
      cases hoccurs with
      | bodyPattern hplace hrefused =>
        exact absurd (.bodyPattern hplace hrefused) (not_occursIn_of_patterns hbodies _ _)
      | unknownHandler hused hunknown =>
        exact ⟨_, (mem_unresolved_ofConfig hrules _).2 ⟨hused, hunknown⟩, rfl⟩
      | linePattern | missingGroup | templates => cases hpart
    · rintro ⟨name, hname, rfl⟩
      obtain ⟨hused, hunknown⟩ := (mem_unresolved_ofConfig hrules name).1 hname
      exact ⟨⟨.unknownHandler hused hunknown, fun ⟨place, cause, hoccurs⟩ =>
        not_occursIn_of_patterns hbodies place cause hoccurs⟩, rfl⟩

/-- Of the templates, what the library says is wrong with them is reported. -/
theorem tells_ofTemplates :
    Tells (ofTemplates config).errors fun problem => problem.ShowsIn config ∧ problem.part = .templates := by
  unfold ofTemplates
  cases hread : Library.ofList config.templates.toList with
  | error cause =>
    refine Tells.single (.templates cause) fun problem => ?_
    constructor
    · rintro ⟨⟨hoccurs, -⟩, hpart⟩
      cases hoccurs with
      | templates hrefused => rw [Except.error.inj (hread.symm.trans hrefused)]
      | linePattern | missingGroup | bodyPattern | unknownHandler => cases hpart
    · rintro rfl
      exact ⟨⟨.templates hread, id⟩, rfl⟩
  | ok library =>
    refine Tells.nothing ?_
    rintro problem ⟨⟨hoccurs, -⟩, hpart⟩
    cases hoccurs with
    | templates hrefused => cases hread.symm.trans hrefused
    | linePattern | missingGroup | bodyPattern | unknownHandler => cases hpart

/-! ## One part at a time -/

/-- There is nothing wrong with the default line pattern. -/
theorem errors_ofLinePattern_default (config : Config)
    (h : config.trace.linePattern = ({} : Config).trace.linePattern) : (ofLinePattern config).errors = [] := by
  have hsame : ofLinePattern config = ofLinePattern {} := by rw [ofLinePattern, ofLinePattern, h]
  rw [hsame, errors_ofLinePattern_eq_nil_iff]
  exact ⟨_, linePatternOf_default⟩

/-- There is nothing wrong with the default patterns for bodies and the default names of handlers. -/
theorem errors_ofRules_default (config : Config) (hpatterns : config.patterns = {})
    (hmapping : config.trace.mapping = ({} : Config).trace.mapping)
    (hdefault : config.trace.defaultHandler = ({} : Config).trace.defaultHandler) :
    (ofRules config).errors = [] := by
  rw [errors_ofRules_eq_nil_iff]
  refine ⟨_, (ExtractionRules.ofConfig_eq_ok_iff _ _).2 ⟨_, bodyPatterns_ofConfig_of_patterns hpatterns, rfl⟩, ?_⟩
  rw [hmapping, hdefault]
  change defaultRules.unresolved = []
  decide +kernel

/-- There is nothing wrong with the default templates. -/
theorem errors_ofTemplates_default (config : Config) (h : config.templates = {}) :
    (ofTemplates config).errors = [] := by
  rw [errors_ofTemplates_eq_nil_iff, h]
  exact ⟨_, ofTemplates_default⟩

end Findings

/-- The configuration with all that the other parts of the findings are about as it is by default, so that only the
problems of one part are left. -/
def Config.only (config : Config) : Part → Config
  | .line => { config with
    trace := { linePattern := config.trace.linePattern }, patterns := {}, templates := {} }
  | .rules => { config with
    trace := { config.trace with linePattern := ({} : Config).trace.linePattern }, templates := {} }
  | .templates => { config with trace := {}, patterns := {} }

/-- What is wrong with one part is reported in the same words if nothing is wrong with the others. -/
theorem Findings.errors_only (config : Config) (part : Part) : (ofConfig (config.only part)).errors =
    match part with
    | .line => (ofLinePattern config).errors
    | .rules => (ofRules config).errors
    | .templates => (ofTemplates config).errors := by
  rw [errors_ofConfig]
  cases part with
  | line =>
    rw [errors_ofRules_default (config.only .line) rfl rfl rfl, errors_ofTemplates_default (config.only .line) rfl,
      List.append_nil, List.append_nil]
    rfl
  | rules =>
    rw [errors_ofLinePattern_default (config.only .rules) rfl, errors_ofTemplates_default (config.only .rules) rfl,
      List.append_nil, List.nil_append]
    rfl
  | templates =>
    rw [errors_ofLinePattern_default (config.only .templates) rfl,
      errors_ofRules_default (config.only .templates) rfl rfl rfl, List.nil_append]
    rfl

/-- If a template cannot be read then the first such is what the library complains about. -/
theorem Library.exists_unreadable {texts : List (String × String)} {name text : String}
    (hmem : (name, text) ∈ texts) (hread : Template.read? text = none) :
    ∃ first, Library.ofList texts = .error (.unreadable first) := by
  have hall : ∃ first, Library.readAll texts = .error (.unreadable first) := by
    induction texts with
    | nil => cases hmem
    | cons entry texts ih =>
      obtain ⟨front, begin⟩ := entry
      -- the equation for all cases: to state the one for this case, the text would be read
      rw [readAll.eq_def]
      cases hbegin : Template.read? begin with
      | none => exact ⟨front, by simp only [hbegin]⟩
      | some template =>
        have hrest : (name, text) ∈ texts := by
          refine (List.mem_cons.1 hmem).resolve_left ?_
          rintro ⟨⟩
          rw [hread] at hbegin
          cases hbegin
        obtain ⟨first, hfirst⟩ := ih hrest
        refine ⟨first, ?_⟩
        simp only [hbegin, hfirst]
        rfl
  obtain ⟨first, hfirst⟩ := hall
  exact ⟨first, by rw [ofList, hfirst]; rfl⟩

/-- **What is wrong with a configuration is reported**, but for what is hidden. The errors are the texts of what
shows, each problem once: everything that is wrong with the line pattern, the first pattern for bodies that is
refused or else every name that is used and stands for no handler, and what is wrong with the templates. The errors
about the line pattern, about the rules and about the templates are those that there are if nothing else is wrong,
and a template that cannot be read is always noticed. -/
theorem problems_reported (config : Config) :
    Tells (Findings.ofConfig config).errors (Problem.ShowsIn config) ∧
    (Findings.ofConfig config).errors =
      [Part.line, .rules, .templates].flatMap (fun part => (Findings.ofConfig (config.only part)).errors) ∧
    ∀ name text, (name, text) ∈ config.templates.toList → Template.read? text = none →
      ∃ first, Problem.ShowsIn config (.templates (.unreadable first)) := by
  refine ⟨?_, ?_, fun name text hmem hread => ?_⟩
  · rw [Findings.errors_ofConfig]
    have hline := Findings.tells_ofLinePattern config
    have hrules := Findings.tells_ofRules config
    have htemplates := Findings.tells_ofTemplates config
    have hparts := (hline.append hrules fun problem h h' => by simp [h.2] at h').append htemplates (by
      rintro problem (h | h) h' <;> simp [h.2] at h')
    refine hparts.congr fun problem => ?_
    -- a problem belongs to one of the parts
    cases hpart : problem.part <;> simp
  · simp only [List.flatMap_cons, List.flatMap_nil, List.append_nil, Findings.errors_only]
    rw [Findings.errors_ofConfig, List.append_assoc]
  · obtain ⟨first, hfirst⟩ := Library.exists_unreadable hmem hread
    exact ⟨first, .templates hfirst, id⟩

/-- A line pattern without groups, and a template that cannot be read. -/
def wanting : Config where
  trace := { linePattern := "x" }
  templates := { remark := "\x7b\x7b" }

/-- Neither keeps the other from being noticed. -/
theorem problems_reported_wanting :
    ("remark", "\x7b\x7b") ∈ wanting.templates.toList ∧ Template.read? "\x7b\x7b" = none ∧
      (∃ first, Problem.ShowsIn wanting (.templates (.unreadable first))) ∧
      "Line regex has no 'body' group" ∈ (Findings.ofConfig wanting).errors := by
  have hmem : ("remark", "\x7b\x7b") ∈ wanting.templates.toList := by decide
  have hread : Template.read? "\x7b\x7b" = none := by decide +kernel
  obtain ⟨⟨problems, herrors, -, hproblems⟩, -, hunreadable⟩ := problems_reported wanting
  refine ⟨hmem, hread, hunreadable _ _ hmem hread, ?_⟩
  have hbody : Problem.ShowsIn wanting (.missingGroup "body") :=
    ⟨.missingGroup (p := ⟨.group 0 (.one (.range 'x' 'x')), [none]⟩) (by decide +kernel) (by decide) (by decide),
      id⟩
  rw [herrors]
  exact List.mem_map_of_mem (f := Problem.message) ((hproblems _).2 hbody)

/-- Two patterns for bodies that are refused, and a name that stands for no handler. -/
def troubled : Config where
  trace := { defaultHandler := "Nope" }
  patterns := { messageReceive := "(", timer := "(" }

/-- The second pattern for bodies that is refused and the name that stands for no handler go unnoticed. -/
theorem problems_hidden :
    (∀ problem ∈ [Problem.bodyPattern 0 .malformed, .bodyPattern 7 .malformed, .unknownHandler "Nope"],
      problem.OccursIn troubled) ∧
    (Findings.ofConfig troubled).errors = [(Problem.bodyPattern 0 .malformed).message] ∧
    (Problem.unknownHandler "Nope").message ∉ (Findings.ofConfig troubled).errors := by
  have hrefused : Pattern.compile "(" = .error .malformed := by decide +kernel
  have herrors : (Findings.ofConfig troubled).errors = [(Problem.bodyPattern 0 .malformed).message] := by
    have hbodies : BodyPatterns.ofConfig troubled = .error .malformed := by
      have hlist : troubled.patterns.toList = "(" :: troubled.patterns.toList.tail := rfl
      rw [← fault?_eq_some_iff, BodyPatterns.fault?_ofConfig, hlist, List.findSome?_cons, hrefused]
      rfl
    have hrules : ExtractionRules.ofConfig troubled = .error .malformed := by
      rw [ExtractionRules.ofConfig, hbodies]
      rfl
    rw [Findings.errors_ofConfig, Findings.errors_ofLinePattern_default troubled rfl,
      Findings.errors_ofTemplates_default troubled rfl, Findings.ofRules, hrules]
    rfl
  refine ⟨?_, herrors, ?_⟩
  · simp only [List.forall_mem_cons]
    exact ⟨.bodyPattern rfl hrefused, .bodyPattern rfl hrefused, .unknownHandler (.inr rfl) (by decide),
      List.forall_mem_nil _⟩
  · rw [herrors]
    decide

end TraceDiagram
