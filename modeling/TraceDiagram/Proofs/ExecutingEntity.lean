import TraceDiagram.Proofs.Declarations
import TraceDiagram.Proofs.Default.LineGrammar
import TraceDiagram.Proofs.OpenCalls

/-! # The executing entity has a name

Calls are matched by patterns that begin with a word, so with the default patterns every open call says whom
it calls, whatever marker stands between an object and its method. The executing entity is the one called
last, or the traced entity, and so it is never without a name.

* **`DefaultPattern.exists_word_of_captures`** a pattern that begins with a word captures one.
* **`BodyPatterns.CallsByDefault`** the patterns for calls are the default ones; by
  **`Handler.namesCalled_of_callStatement?`** every call then says whom it calls.
* **`CallStack.Named`** the invariant: all open calls do, and the traced entity has a name.
* **`TraceReader.named_line`** the step lemma, and **`TraceReader.named_after`** the run lemma.
* **`executing_entity_named`** what that says about the statements that name the executing entity. -/

namespace TraceDiagram

open Pattern (Node)

/-! ## Calls say whom they call -/

namespace DefaultPattern

/-- **A pattern that begins with a word captures one** under the first of its names, if none of its other groups
is in the way. -/
theorem exists_word_of_captures {parts : List Node} (hparts : ∀ part ∈ parts, 1 ∉ part.indices)
    {name : String} {names : List String} {text : List Char} {c : Captures}
    (h : (ofParts (word 1 :: parts) (name :: names)).captures text = some c) :
    ∃ w : Word, c.get? name = some w.text := by
  obtain ⟨s, hs, rfl⟩ := Option.map_eq_some_iff.1 h
  obtain ⟨_, _, ⟨_, _, _, _, hword, hrest, rfl, rfl⟩, -, hmatched⟩ := Pattern.spelling_of_firstMatch hs
  obtain ⟨w, rfl⟩ := exists_word_of_spells hword
  obtain ⟨_, ⟨-, -, -, rfl⟩, rfl⟩ := hword
  have hlookup : (s.groups.lookup 1).map Pattern.Extent.text = some w.chars := by
    rw [← s.lookup_matched, hmatched, List.lookup_cons, List.lookup_append, hrest.lookup_eq_none hparts]
    rfl
  refine ⟨w, ?_⟩
  have hfirst : (none :: (name :: names).map some).idxOf? (some name) = some 1 := by
    rw [idxOf?_some_name, List.idxOf?_cons, beq_self_eq_true]
    rfl
  simp only [Captures.get?, Captures.group?, ofParts, hfirst, hlookup]
  rfl

end DefaultPattern

/-- The patterns for calls are the default ones. -/
structure BodyPatterns.CallsByDefault (patterns : BodyPatterns) : Prop where
  /-- That for methods is. -/
  methodInvoke : patterns.methodInvoke = DefaultPattern.methodInvoke
  /-- That for functions is. -/
  functionInvoke : patterns.functionInvoke = DefaultPattern.functionInvoke

/-- A word is not empty. -/
theorem Word.text_ne_empty (w : Word) : w.text ≠ "" := by
  intro h
  exact w.ne_nil (by simpa [Word.text] using h)

/-- A statement says whom it calls. -/
def Statement.NamesCalled (s : Statement) : Prop := ∃ name, s.value? "called" = some name ∧ name ≠ ""

/-- Any other attribute may be set. -/
theorem Statement.NamesCalled.setAttribute {s : Statement} (h : s.NamesCalled) {key : String}
    (hkey : key ≠ "called") (value : String) : (s.setAttribute key value).NamesCalled := by
  obtain ⟨name, hname, hne⟩ := h
  exact ⟨name, by rw [Statement.value?_setAttribute, if_neg hkey.symm, hname], hne⟩

/-- **Every call says whom it calls**: the object before the method, or the function itself. -/
theorem Handler.namesCalled_of_callStatement? {patterns : BodyPatterns} (hp : patterns.CallsByDefault)
    {body : String} {call : Statement} (h : callStatement? patterns body = some call) : call.NamesCalled := by
  obtain ⟨-, c, hc, rfl⟩ | ⟨-, c, hc, rfl⟩ := eq_of_callStatement? h
  · rw [hp.methodInvoke] at hc ⊢
    obtain ⟨w, hw⟩ : ∃ w : Word, c.get? "called" = some w.text :=
      DefaultPattern.exists_word_of_captures (by decide) hc
    have hmem : "called" ∈ DefaultPattern.methodInvoke.groupNames := by decide
    exact ⟨w.text, by simp [BodyPatterns.value?_captured, hmem, hw], w.text_ne_empty⟩
  · rw [hp.functionInvoke] at hc ⊢
    obtain ⟨w, hw⟩ : ∃ w : Word, c.get? "method" = some w.text :=
      DefaultPattern.exists_word_of_captures (by decide) hc
    have hmem : "method" ∈ DefaultPattern.functionInvoke.groupNames := by decide
    exact ⟨w.text, by simp [value?_ownEntity, BodyPatterns.value?_captured, hmem, hw], w.text_ne_empty⟩

/-! ## Open calls -/

/-- All open calls say whom they call, and the entity that is traced has a name. -/
structure CallStack.Named (stack : CallStack) : Prop where
  /-- The calls do. -/
  frames : ∀ call ∈ stack.frames, call.NamesCalled
  /-- The entity has one. -/
  root : stack.root ≠ ""

namespace CallStack.Named

variable {stack : CallStack}

/-- Then the executing entity has a name as well. -/
theorem caller (h : stack.Named) : stack.caller ≠ "" := by
  unfold CallStack.caller
  cases htop : stack.top? with
  | none => exact h.root
  | some call =>
    obtain ⟨name, hname, hne⟩ := h.frames call (List.mem_of_head? htop)
    rw [Option.bind_some, hname]
    exact hne

theorem push (h : stack.Named) {call : Statement} (hcall : call.NamesCalled) : (stack.push call).Named :=
  ⟨List.forall_mem_cons.2 ⟨hcall, h.frames⟩, h.root⟩

theorem pop (h : stack.Named) : stack.pop.2.Named :=
  ⟨fun call hcall => h.frames call (List.mem_of_mem_tail hcall), h.root⟩

end CallStack.Named

/-! ## Lines -/

namespace ExtractionRules

variable {rules : ExtractionRules} {stack : CallStack}

/-- Whatever handler takes care of a line, it leaves calls open that say whom they call. -/
theorem named_construct (hhandlers : rules.handlers = builtinHandlers) (hp : rules.patterns.CallsByDefault)
    (hstack : stack.Named) (fields : LineFields) : (rules.construct fields stack).2.Named := by
  have hget := get?_handlerName hhandlers fields.category
  by_cases hinvoke : rules.handlerName fields.category = "Invoke"
  · rw [construct, handlerFor_of_invoke hhandlers hinvoke]
    cases hcall : Handler.callStatement? rules.patterns fields.body with
    | none =>
      rw [Handler.invoke_of_none hcall]
      exact hstack
    | some call =>
      rw [Handler.invoke_of_some hcall]
      have hcalled := Handler.namesCalled_of_callStatement? hp hcall
      exact hstack.push (hcalled.setAttribute (by decide) _)
  by_cases hreturn : rules.handlerName fields.category = "Return"
  · rw [construct, handlerFor_of_return hhandlers hreturn]
    -- without an open call there is nothing to close
    obtain ⟨_ | ⟨call, frames⟩, root⟩ := stack
    · exact hstack
    · exact hstack.pop
  · rw [construct, snd_of_builtin hget hinvoke hreturn]
    exact hstack

end ExtractionRules

/-- The attribute for the executing entity is one of those that name entities. -/
theorem StatementKind.mem_entityAttributes_of_executingKey? {kind : StatementKind} {key : String}
    (h : kind.executingKey? = some key) : key ∈ kind.entityAttributes := by
  cases kind <;> simp_all [executingKey?, entityAttributes]

/-- A statement has a name for the executing entity, if its kind asks for one. -/
def Statement.NamesExecuting (s : Statement) : Prop :=
  ∀ key, s.kind.executingKey? = some key → ∃ name, s.value? key = some name ∧ name ≠ ""

namespace TraceReader

variable {r : TraceReader} (hhandlers : r.rules.handlers = builtinHandlers)
  (hp : r.rules.patterns.CallsByDefault)

include hhandlers hp

/-- **Step lemma**: while the executing entity has a name, a line adds a statement that has it, if it adds one,
and leaves an entity with a name executing. -/
theorem named_line {stack : CallStack} (hstack : stack.Named) (line : String) :
    (∀ s, r.completed stack line = some s → s.NamesExecuting) ∧ (r.construction stack line).2.Named := by
  constructor
  · intro s hs key hkey
    exact ⟨stack.caller, value?_executingKey hhandlers hs hkey, hstack.caller⟩
  · rw [construction]
    cases r.fieldsOn line with
    | none => exact hstack
    | some fields => exact ExtractionRules.named_construct hhandlers hp hstack fields

/-- **Run lemma**: after any lines the executing entity has a name, and the statements have one for it. -/
theorem named_after (hroot : r.tracedEntity ≠ "") (lines : List String) :
    (r.after lines).stack.Named ∧ ∀ s ∈ (r.after lines).parsed.statements, s.NamesExecuting :=
  r.statements_induction (L := fun _ => True) ⟨List.forall_mem_nil _, hroot⟩
    (fun hstack _ => named_line hhandlers hp hstack _) fun _ _ => trivial

end TraceReader

/-- The reader of a configuration with the default patterns has these for calls. -/
theorem TraceReader.callsByDefault_of_ofConfig {config : Config} {r : TraceReader}
    (h : TraceReader.ofConfig config = .ok r) (hpatterns : config.patterns = {}) :
    r.rules.patterns.CallsByDefault := by
  have hread := (bodyPatterns_ofConfig_of_patterns hpatterns).symm.trans (patterns_of_ofConfig h)
  rw [← Except.ok.inj hread]
  exact ⟨rfl, rfl⟩

/-- **The executing entity is never without a name.** For every configuration with the default patterns for
bodies whose traced entity has a name, whatever its pattern for lines, its handlers by category and its marker
are, and for all lines: the executing entity has a name, and each stored statement whose kind names it has one,
which is in the cast. -/
theorem executing_entity_named {config : Config} {r : TraceReader} (h : TraceReader.ofConfig config = .ok r)
    (hpatterns : config.patterns = {}) (hroot : config.trace.tracedEntity ≠ "") (lines : List String) :
    (r.after lines).stack.caller ≠ "" ∧
      ∀ s ∈ (r.after lines).parsed.statements, ∀ key, s.kind.executingKey? = some key →
        ∃ name, s.value? key = some name ∧ name ≠ "" ∧ name ∈ (r.after lines).parsed.cast.names := by
  have htraced : r.tracedEntity = config.trace.tracedEntity := by
    obtain ⟨_, _, -, -, rfl⟩ := (TraceReader.ofConfig_eq_ok_iff config r).1 h
    rfl
  obtain ⟨hstack, hstatements⟩ := TraceReader.named_after (TraceReader.handlers_of_ofConfig h)
    (TraceReader.callsByDefault_of_ofConfig h hpatterns) (htraced ▸ hroot) lines
  refine ⟨hstack.caller, fun s hs key hkey => ?_⟩
  obtain ⟨name, hname, hne⟩ := hstatements s hs key hkey
  have hmentions : s.Mentions name :=
    ⟨hne, key, StatementKind.mem_entityAttributes_of_executingKey? hkey, hname⟩
  exact ⟨name, hname, hne, ((r.recorded_after lines).mem_names_iff name).2 ⟨s, hs, hmentions⟩⟩

/-- The default configuration with another marker. -/
def dottedConfig : Config := { trace := { scopeMarker := ".", tracedEntity := "Engine" } }

/-- It has a reader. Some of its calls are functions, others do not fit either pattern, and a return closes the
first. -/
theorem executing_entity_named_dotted :
    let r := TraceReader.withRules DefaultPattern.line
      { defaultRules with patterns := { defaultBodyPatterns with scopeMarker := "." } } dottedConfig
    let lines := ["[1][A][a.c] called run(x=1)", "[2][A][a.c] called A.step()", "[3][A][a.c] state idle",
      "[4][A][a.c] returned from run"]
    TraceReader.ofConfig dottedConfig = .ok r ∧ dottedConfig.patterns = {} ∧
      dottedConfig.trace.tracedEntity ≠ "" ∧ (r.after lines).stack.caller ≠ "" ∧
      ∀ s ∈ (r.after lines).parsed.statements, ∀ key, s.kind.executingKey? = some key →
        ∃ name, s.value? key = some name ∧ name ≠ "" ∧ name ∈ (r.after lines).parsed.cast.names := by
  intro r lines
  have hreader : TraceReader.ofConfig dottedConfig = .ok r := by
    have hline : TraceReader.linePatternOf dottedConfig = .ok DefaultPattern.line := by
      have hwritten : dottedConfig.trace.linePattern = ({} : Config).trace.linePattern := rfl
      rw [TraceReader.linePatternOf, hwritten, DefaultPattern.compile_written List.mem_cons_self]
      rfl
    exact (TraceReader.ofConfig_eq_ok_iff _ _).2 ⟨_, _, hline,
      (ExtractionRules.ofConfig_eq_ok_iff _ _).2 ⟨_, bodyPatterns_ofConfig_of_patterns rfl, rfl⟩, rfl⟩
  exact ⟨hreader, rfl, by decide, executing_entity_named hreader rfl (by decide) lines⟩

end TraceDiagram
