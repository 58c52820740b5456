import TraceDiagram.Proofs.Extraction
import TraceDiagram.Proofs.Pattern.Invariants
import TraceDiagram.Proofs.Reading

/-! # No newline gets into a statement

Lines have no newline in them, and whatever a statement says comes from stretches of lines, so no statement
says anything that goes beyond one line.

* **`OneLine`** a text without a newline; **`OneLine.of_isInfix`** its stretches have none either.
* **`Statement.Unbroken`** all attributes, parameters and remarks of a statement are such, and
  **`CallStack.Unbroken`** the same of all open calls; every setter keeps it.
* **`Handler.KeepsUnbroken`** a handler makes such statements of such lines, and leaves such calls open;
  **`keepsUnbroken_of_builtin`** says it of the handlers that there are, whatever the patterns are.
* **`TraceReader.unbroken_after`** the run lemma. -/

namespace TraceDiagram

/-! ## Texts on one line -/

/-- A text without a newline. -/
def OneLine (text : String) : Prop := '\n' ∉ text.toList

instance (text : String) : Decidable (OneLine text) :=
  inferInstanceAs (Decidable ('\n' ∉ text.toList))

theorem oneLine_empty : OneLine "" := by decide

@[simp] theorem oneLine_append (s u : String) : OneLine (s ++ u) ↔ OneLine s ∧ OneLine u := by
  simp [OneLine, not_or]

/-- What is a stretch of a line goes on one line. -/
theorem OneLine.of_isInfix {text part : String} (h : OneLine text) (hpart : part.toList <:+: text.toList) :
    OneLine part := fun hmem => h (hpart.subset hmem)

theorem OneLine.ofList_of_isInfix {text : String} {part : List Char} (h : OneLine text)
    (hpart : part <:+: text.toList) : OneLine (String.ofList part) :=
  h.of_isInfix (by rwa [String.toList_ofList])

theorem OneLine.trim {text : String} (h : OneLine text) : OneLine (Text.trim text) :=
  h.ofList_of_isInfix (Text.trimChars_isInfix _)

/-- Joined pieces go on one line if they and what stands between them do. -/
theorem OneLine.joinStrings {sep : String} (hsep : OneLine sep) {pieces : List String}
    (hpieces : ∀ piece ∈ pieces, OneLine piece) : OneLine (Text.joinStrings sep pieces) := by
  rw [OneLine, Text.joinStrings, String.toList_ofList]
  intro hmem
  rcases Text.mem_of_mem_join hmem with h | ⟨chars, hchars, h⟩
  · exact hsep h
  · obtain ⟨piece, hpiece, rfl⟩ := List.mem_map.1 hchars
    exact hpieces piece hpiece h

/-- What a named group of a match says goes on one line, if the text does. -/
theorem OneLine.of_captures {p : Pattern} {text : String} {c : Captures} (h : OneLine text)
    (hc : p.captures text.toList = some c) (name : String) : OneLine ((c.get? name).getD "") := by
  cases hvalue : c.get? name with
  | none => exact oneLine_empty
  | some value => exact h.of_isInfix (isInfix_of_captures hc hvalue)

/-! ## Statements -/

/-- A remark on one line. -/
structure Remark.Unbroken (r : Remark) : Prop where
  /-- The time has no newline. -/
  time : OneLine r.time
  /-- The place in the program has none. -/
  file : OneLine r.file

/-- The fields of a line are without newlines. -/
structure LineFields.Unbroken (fields : LineFields) : Prop where
  /-- The category has no newline. -/
  category : OneLine fields.category
  /-- The entity that wrote the line has none in its name. -/
  generator : OneLine fields.generator
  /-- The body has none. -/
  body : OneLine fields.body

/-- Nothing that a statement says has a newline in it. -/
structure Statement.Unbroken (s : Statement) : Prop where
  /-- The attributes go on one line each. -/
  values : ∀ key value, s.value? key = some value → OneLine value
  /-- The parameters do. -/
  params : ∀ ps, s.params = some ps → ∀ p ∈ ps, OneLine p.name ∧ OneLine p.value
  /-- The remark does. -/
  remark : ∀ r, s.remark = some r → r.Unbroken

namespace Statement

variable {s : Statement} {value : String}

/-- A statement that says nothing yet. -/
theorem unbroken_ofKind (kind : StatementKind) : ({ kind := kind } : Statement).Unbroken where
  values _ _ h := by cases h
  params _ h := by cases h
  remark _ h := by cases h

theorem Unbroken.setAttribute (h : s.Unbroken) (key : String) (hvalue : OneLine value) :
    (s.setAttribute key value).Unbroken where
  values other v hv := by
    rw [value?_setAttribute] at hv
    split at hv
    · exact Option.some.inj hv ▸ hvalue
    · exact h.values other v hv
  params := h.params
  remark := h.remark

theorem Unbroken.setDefault (h : s.Unbroken) (key : String) (hvalue : OneLine value) :
    (s.setDefault key value).Unbroken where
  values other v hv := by
    rw [value?_setDefault] at hv
    split at hv
    · rw [← Option.some.inj hv]
      -- the attribute has the value it had, or the one given
      cases hkey : s.value? key with
      | none => exact hvalue
      | some old => exact h.values key old hkey
    · exact h.values other v hv
  params := h.params
  remark := h.remark

theorem Unbroken.setParams (h : s.Unbroken) {ps : List Param}
    (hps : ∀ p ∈ ps, OneLine p.name ∧ OneLine p.value) : (s.setParams ps).Unbroken where
  values := h.values
  params _ h' := Option.some.inj h' ▸ hps
  remark := h.remark

theorem Unbroken.setRemark (h : s.Unbroken) {r : Remark} (hr : r.Unbroken) :
    (s.setRemark r).Unbroken where
  values := h.values
  params := h.params
  remark _ h' := Option.some.inj h' ▸ hr

/-- What is taken over from a call is on one line as well. -/
theorem Unbroken.inherit (h : s.Unbroken) {call : Statement} (hcall : call.Unbroken) (key : String) :
    (Handler.inherit call s key).Unbroken := by
  unfold Handler.inherit
  split
  · split
    · next value hvalue => exact h.setAttribute key (hcall.values key value hvalue)
    · exact h
  · exact h

theorem Unbroken.ownEntity (h : s.Unbroken) : (Handler.ownEntity s).Unbroken := by
  unfold Handler.ownEntity
  split
  · next method hmethod => exact h.setAttribute _ (h.values _ method hmethod)
  · exact h

theorem Unbroken.complete (h : s.Unbroken) {fields : LineFields} (hfields : fields.Unbroken)
    {remark : Remark} (hremark : remark.Unbroken) : (TraceReader.complete fields remark s).Unbroken := by
  have htime := h.setDefault "time" hremark.time
  have hfile := htime.setDefault "file" hremark.file
  have hgenerator := hfile.setDefault "generator" hfields.generator
  have hcategory := hgenerator.setDefault "category" hfields.category
  exact hcategory.setRemark hremark

end Statement

/-! ## Captured groups -/

/-- Parameters are read from one line. -/
theorem ParamSyntax.oneLine_read (x : ParamSyntax) {raw : String} (h : OneLine raw) :
    ∀ p ∈ x.read raw, OneLine p.name ∧ OneLine p.value := by
  intro p hp
  rw [read] at hp
  split at hp
  · cases hp
  · obtain ⟨item, hitem, hone⟩ := List.mem_filterMap.1 hp
    obtain ⟨⟨name, value⟩, hcut, rfl⟩ := Option.map_eq_some_iff.1 hone
    have hpiece : name ++ x.valueSeparator.toList ++ value <:+: raw.toList := by
      rw [← Text.splitOnce?_eq_some hcut]
      exact Text.isInfix_of_mem_split hitem
    -- both sides of the separator are stretches of the piece, and so of the text
    have hname : name <:+: raw.toList :=
      ((List.prefix_append _ _).trans (List.prefix_append _ _)).isInfix.trans hpiece
    have hvalue : value <:+: raw.toList := (List.suffix_append _ _).isInfix.trans hpiece
    exact ⟨h.ofList_of_isInfix ((Text.trimChars_isInfix name).trans hname),
      h.ofList_of_isInfix ((Text.trimChars_isInfix value).trans hvalue)⟩

namespace BodyPatterns

/-- Taking a group for an attribute or for parameters. -/
theorem unbroken_takeGroup (x : ParamSyntax) {s : Statement} (h : s.Unbroken) {group : String × String}
    (hgroup : OneLine group.2) : (takeGroup x s group).Unbroken := by
  unfold takeGroup
  split
  · exact h.setParams (x.oneLine_read hgroup)
  · exact h.setAttribute group.1 hgroup

theorem unbroken_foldl_takeGroup (x : ParamSyntax) {groups : List (String × String)}
    (hgroups : ∀ group ∈ groups, OneLine group.2) {s : Statement} (h : s.Unbroken) :
    (groups.foldl (takeGroup x) s).Unbroken := by
  induction groups generalizing s with
  | nil => exact h
  | cons group groups ih =>
    obtain ⟨hgroup, hgroups⟩ := List.forall_mem_cons.1 hgroups
    exact ih hgroups (unbroken_takeGroup x h hgroup)

/-- **What is captured from a body on one line is without newlines**, whatever the pattern is. -/
theorem unbroken_captured (patterns : BodyPatterns) {p : Pattern} {body : String} (hbody : OneLine body)
    {c : Captures} (hc : p.captures body.toList = some c) (kind : StatementKind) :
    (patterns.captured p kind c).Unbroken := by
  refine unbroken_foldl_takeGroup _ (fun group hgroup => ?_) (Statement.unbroken_ofKind kind)
  obtain ⟨name, -, rfl⟩ := List.mem_map.1 hgroup
  exact hbody.of_captures hc name

end BodyPatterns

/-! ## Open calls -/

/-- All open calls are without newlines, and so is the name of the entity that is traced. -/
structure CallStack.Unbroken (stack : CallStack) : Prop where
  /-- The calls are. -/
  frames : ∀ call ∈ stack.frames, call.Unbroken
  /-- The name is. -/
  root : OneLine stack.root

namespace CallStack

variable {stack : CallStack}

theorem Unbroken.caller (h : stack.Unbroken) : OneLine stack.caller := by
  unfold CallStack.caller
  cases hcalled : stack.top?.bind fun call => call.value? "called" with
  | none => exact h.root
  | some name =>
    obtain ⟨call, hcall, hname⟩ := Option.bind_eq_some_iff.1 hcalled
    exact (h.frames call (List.mem_of_head? hcall)).values "called" name hname

theorem Unbroken.push (h : stack.Unbroken) {call : Statement} (hcall : call.Unbroken) :
    (stack.push call).Unbroken := ⟨List.forall_mem_cons.2 ⟨hcall, h.frames⟩, h.root⟩

theorem Unbroken.pop (h : stack.Unbroken) : stack.pop.2.Unbroken :=
  ⟨fun call hcall => h.frames call (List.mem_of_mem_tail hcall), h.root⟩

end CallStack

/-! ## Handlers -/

namespace Handler

/-- Of a line without newlines, the handler makes a statement without newlines, and leaves such calls open. -/
def KeepsUnbroken (handler : Handler) : Prop :=
  ∀ patterns {fields stack}, fields.Unbroken → stack.Unbroken →
    (∀ s, (handler patterns fields stack).1 = some s → s.Unbroken) ∧
      (handler patterns fields stack).2.Unbroken

theorem keepsUnbroken_byGenerator (kind : StatementKind) (pattern : BodyPatterns → Pattern)
    (key : String) : KeepsUnbroken (byGenerator kind pattern key) := by
  intro patterns fields stack hfields hstack
  refine ⟨fun s hs => ?_, hstack⟩
  obtain ⟨c, hc, rfl⟩ := eq_of_byGenerator hs
  exact (patterns.unbroken_captured hfields.body hc kind).setAttribute key hfields.generator

/-- Both forms of a call are captured from the body. -/
theorem unbroken_of_callStatement? {patterns : BodyPatterns} {body : String} (hbody : OneLine body)
    {s : Statement} (h : callStatement? patterns body = some s) : s.Unbroken := by
  obtain ⟨-, c, hc, rfl⟩ | ⟨-, c, hc, rfl⟩ := eq_of_callStatement? h
  · exact patterns.unbroken_captured hbody hc .invoke
  · exact (patterns.unbroken_captured hbody hc .invoke).ownEntity

theorem keepsUnbroken_invoke : KeepsUnbroken invoke := by
  intro patterns fields stack hfields hstack
  cases hcall : callStatement? patterns fields.body with
  | none =>
    rw [invoke_of_none hcall]
    exact ⟨nofun, hstack⟩
  | some call =>
    have hcalled := (unbroken_of_callStatement? hfields.body hcall).setAttribute "caller" hstack.caller
    rw [invoke_of_some hcall]
    exact ⟨fun s hs => Option.some.inj hs ▸ hcalled, hstack.push hcalled⟩

/-- A return closes a call even where its body does not fit. -/
theorem keepsUnbroken_methodReturn : KeepsUnbroken methodReturn := by
  intro patterns fields stack hfields hstack
  constructor
  · intro s hs
    obtain ⟨call, c, htop, hc, rfl⟩ := eq_of_methodReturn hs
    have hcall := hstack.frames call (List.mem_of_mem_head? htop)
    have hcaptured := patterns.unbroken_captured hfields.body hc .methodReturn
    simp only [List.foldl_cons, List.foldl_nil]
    exact ((hcaptured.inherit hcall "caller").inherit hcall "called").inherit hcall "method"
  · -- without an open call there is nothing to close
    obtain ⟨_ | ⟨call, frames⟩, root⟩ := stack
    · exact hstack
    · exact hstack.pop

theorem keepsUnbroken_timer (kind : StatementKind) : KeepsUnbroken (timer kind) := by
  intro patterns fields stack hfields hstack
  refine ⟨fun s hs => ?_, hstack⟩
  obtain ⟨c, hc, rfl⟩ := eq_of_timer hs
  have hobject := (Statement.unbroken_ofKind kind).setAttribute "object" hstack.caller
  -- a timer without a name of its own is named by the whole body
  cases hname : c.get? "timer" with
  | none => exact hobject.setAttribute "timer" hfields.body.trim
  | some name => exact hobject.setAttribute "timer" (hfields.body.of_isInfix (isInfix_of_captures hc hname))

theorem keepsUnbroken_ofObject (kind : StatementKind) (key : String) :
    KeepsUnbroken (ofObject kind key) := by
  intro patterns fields stack hfields hstack
  refine ⟨fun s hs => ?_, hstack⟩
  obtain rfl := eq_of_ofObject hs
  have hobject := (Statement.unbroken_ofKind kind).setAttribute "object" hstack.caller
  exact hobject.setAttribute key hfields.body.trim

theorem keepsUnbroken_genericAction : KeepsUnbroken genericAction := by
  intro patterns fields stack hfields hstack
  refine ⟨fun s hs => ?_, hstack⟩
  obtain rfl := eq_of_genericAction hs
  have hactor := (Statement.unbroken_ofKind .genericAction).setAttribute "actor" hstack.caller
  have htype := hactor.setAttribute "action_type" hfields.category
  exact htype.setAttribute "action" hfields.body.trim

end Handler

/-- The handlers that there are let no newline in. -/
theorem keepsUnbroken_of_builtin {name : String} {handler : Handler}
    (h : builtinHandlers.get? name = some handler) : handler.KeepsUnbroken := by
  apply forall_builtin (P := fun _ handler => handler.KeepsUnbroken) (h := h)
  case invoke => exact Handler.keepsUnbroken_invoke
  case methodReturn => exact Handler.keepsUnbroken_methodReturn
  case genericAction => exact Handler.keepsUnbroken_genericAction
  case messageReceive | messageSend | create | delete => exact Handler.keepsUnbroken_byGenerator _ _ _
  case startTimer | stopTimer | expiredTimer => exact Handler.keepsUnbroken_timer _
  all_goals exact Handler.keepsUnbroken_ofObject _ _

/-! ## Traces -/

namespace TraceReader

/-- The fields of a line without a newline have none. -/
theorem unbroken_fieldsOf {p : Pattern} {line : String} (hline : OneLine line) {c : Captures}
    (hc : p.captures line.toList = some c) : (fieldsOf c).Unbroken :=
  ⟨hline.of_captures hc _, hline.of_captures hc _, hline.of_captures hc _⟩

theorem unbroken_remarkOf {p : Pattern} {line : String} (hline : OneLine line) {c : Captures}
    (hc : p.captures line.toList = some c) : (remarkOf c).Unbroken :=
  ⟨hline.of_captures hc _, hline.of_captures hc _⟩

variable {r : TraceReader} (hhandlers : r.rules.handlers = builtinHandlers)

include hhandlers

/-- **Step lemma**: a line without a newline adds a statement without newlines, if it adds one, and leaves
such calls open. -/
theorem unbroken_line {stack : CallStack} {line : String} (hstack : stack.Unbroken) (hline : OneLine line) :
    (∀ s, r.completed stack line = some s → s.Unbroken) ∧ (r.construction stack line).2.Unbroken := by
  rw [completed, construction, fieldsOn]
  cases hc : r.groupsOn line with
  | none => exact ⟨fun s hs => (Option.some_ne_none s hs.symm).elim, hstack⟩
  | some c =>
    have hfields := unbroken_fieldsOf hline hc
    have hget := ExtractionRules.get?_handlerName hhandlers (fieldsOf c).category
    obtain ⟨hmade, hopen⟩ := keepsUnbroken_of_builtin hget r.rules.patterns hfields hstack
    refine ⟨fun s hs => ?_, hopen⟩
    obtain ⟨built, hbuilt, rfl⟩ := Option.map_eq_some_iff.1 hs
    exact (hmade built hbuilt).complete hfields (unbroken_remarkOf hline hc)

/-- **Run lemma**: after lines without newlines, neither the statements nor the open calls have any. -/
theorem unbroken_after (hroot : OneLine r.tracedEntity) {lines : List String}
    (hlines : ∀ line ∈ lines, OneLine line) :
    (r.after lines).stack.Unbroken ∧ ∀ s ∈ (r.after lines).parsed.statements, s.Unbroken :=
  r.statements_induction ⟨List.forall_mem_nil _, hroot⟩ (unbroken_line hhandlers) hlines

/-- No statement that is read from a text has a newline in it. -/
theorem unbroken_read (hroot : OneLine r.tracedEntity) (text : String) :
    ∀ s ∈ (r.read text).1.parsed.statements, s.Unbroken := by
  refine (unbroken_after hhandlers hroot fun line hline => ?_).2
  obtain ⟨chars, hchars, rfl⟩ := List.mem_map.1 hline
  rw [OneLine, String.toList_ofList]
  exact Text.newline_not_mem_of_mem_lines hchars

end TraceReader

end TraceDiagram
