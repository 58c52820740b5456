import TraceDiagram.Proofs.Default.Matching
import TraceDiagram.Proofs.Extraction
import TraceDiagram.Proofs.Reading

/-! # Forests of calls

A program that writes a line when a method or a function is called and another one when it returns writes
a forest of calls, and the default configuration gets that forest back.

* **`CallForest`** calls, each with the calls made in it; **`CallForest.log`** the lines that are written.
* **`CallForest.events`** who calls whom, call by call and return by return.
* **`step_entry`** and **`step_exit`** what reading the line of a call and that of its return does.
* **`run_log`** reading a log makes the events and leaves the open calls as they were;
  **`callEvents_read`** the log of a whole trace. -/

namespace TraceDiagram

open Text Unicode

/-! ## Calls -/

/-- What is called. -/
inductive Callee where
  /-- A method of an object. -/
  | method (object name : Word)
  /-- A function that belongs to no object. -/
  | function (name : Word)

namespace Callee

/-- The entity that is called. A function is its own entity. -/
def entity : Callee → Word
  | .method object _ => object
  | .function name => name

/-- The name of the method or function. -/
def name : Callee → Word
  | .method _ name => name
  | .function name => name

/-- How a callee is written in a call. -/
def written : Callee → List Char
  | .method object name => object.chars ++ ':' :: ':' :: name.chars
  | .function name => name.chars

/-- How a callee is written in a return. -/
def writtenAtReturn : Callee → List Char
  | .method object name => object.chars ++ ':' :: ':' :: (name.chars ++ ['(', ')'])
  | .function name => name.chars

end Callee

/-- A call with its return. -/
structure Call where
  /-- What is called. -/
  callee : Callee
  /-- The arguments. -/
  arguments : Inline ')'
  /-- The stamp of the call. -/
  entry : Stamp
  /-- The stamp of the return. -/
  exit : Stamp

/-- The category of calls. -/
def Word.called : Word := ⟨['c', 'a', 'l', 'l', 'e', 'd'], by decide, List.all_eq_true.1 (by decide)⟩

/-- The category of returns. -/
def Word.returned : Word :=
  ⟨['r', 'e', 't', 'u', 'r', 'n', 'e', 'd'], by decide, List.all_eq_true.1 (by decide)⟩

namespace Call

/-- What the line of a call says. -/
def body (c : Call) : List Char := c.callee.written ++ '(' :: (c.arguments.chars ++ [')'])

/-- What the line of a return says. -/
def returnBody (c : Call) : List Char := 'f' :: 'r' :: 'o' :: 'm' :: ' ' :: c.callee.writtenAtReturn

/-- The line of a call. -/
def entryLine (c : Call) : List Char := c.entry.line .called c.body

/-- The line of a return. -/
def exitLine (c : Call) : List Char := c.exit.line .returned c.returnBody

end Call

/-- Calls one after the other, each with the calls that are made in it. -/
inductive CallForest where
  /-- No call. -/
  | nil
  /-- A call, the calls that are made in it, and those that follow its return. -/
  | node (call : Call) (inner later : CallForest)

/-- What a statement says about a call. -/
structure CallEvent where
  /-- Whether it is a call or a return. -/
  kind : StatementKind
  /-- Who calls. -/
  caller : Option String
  /-- Who is called. -/
  called : Option String
  /-- The method or function. -/
  method : Option String
  deriving DecidableEq, Repr

/-- What a statement says about a call. -/
def Statement.callEvent (s : Statement) : CallEvent :=
  ⟨s.kind, s.value? "caller", s.value? "called", s.value? "method"⟩

/-- What the statement of a call or of a return says. -/
def Call.event (c : Call) (kind : StatementKind) (caller : String) : CallEvent :=
  ⟨kind, some caller, some c.callee.entity.text, some c.callee.name.text⟩

namespace CallForest

/-- The lines that are written: that of a call, those of the calls made in it, and that of its return. -/
def log : CallForest → List (List Char)
  | .nil => []
  | .node call inner later => call.entryLine :: inner.log ++ call.exitLine :: later.log

/-- The log as a text, each line with a newline after it. -/
def text (f : CallForest) : String := String.ofList (f.log.flatMap fun line => line ++ ['\n'])

/-- How many calls there are. -/
def size : CallForest → Nat
  | .nil => 0
  | .node _ inner later => inner.size + later.size + 1

/-- Who calls whom, while `caller` is executing: each call is made by the callee of the one around it. -/
def events (caller : String) : CallForest → List CallEvent
  | .nil => []
  | .node call inner later =>
    call.event .invoke caller :: inner.events call.callee.entity.text ++
      call.event .methodReturn caller :: later.events caller

/-- There are two events for each call. -/
theorem length_events (f : CallForest) (caller : String) : (f.events caller).length = 2 * f.size := by
  induction f generalizing caller with
  | nil => rfl
  | node call inner later ih₁ ih₂ =>
    simp only [events, size, List.length_append, List.length_cons, ih₁, ih₂]
    omega

end CallForest

/-! ## What bodies say -/

/-- The text of a word is not empty. -/
theorem Word.isEmpty_text (w : Word) : w.text.isEmpty = false := by
  have h : w.text ≠ "" := fun h => w.ne_nil (by simpa [Word.text] using h)
  simpa using h

/-- A character that is no word character does not occur in a word. -/
theorem Word.not_mem {c : Char} (hc : Unicode.isWord c = false) (w : Word) : c ∉ w.chars := by
  intro h
  rw [w.isWord c h] at hc
  cases hc

namespace Callee

/-- A callee is written without parentheses. -/
theorem parenthesis_not_mem (c : Callee) : '(' ∉ c.written := by
  have hword : ∀ w : Word, '(' ∉ w.chars := Word.not_mem DefaultPattern.isWord_parenthesis
  cases c with
  | method object name => simp [written, hword]
  | function name => exact hword name

/-- A body calls a method if its callee is one, whatever the arguments are. -/
theorem callsMethod (c : Callee) (rest : List Char) :
    Handler.callsMethod "::" (String.ofList (c.written ++ '(' :: rest)) =
      match c with
      | .method _ _ => true
      | .function _ => false := by
  -- only what stands in front of the first parenthesis counts, and that is the callee
  have hscope : (c.written ++ '(' :: rest).takeWhile (· ≠ '(') = c.written := by
    rw [List.takeWhile_append_of_pos]
    · simp
    · intro d hd
      have hne : d ≠ '(' := fun h => c.parenthesis_not_mem (h ▸ hd)
      simpa using hne
  simp only [Handler.callsMethod, String.toList_ofList]
  rw [hscope]
  cases c with
  | method object name =>
    have hstretch : [':', ':'] <:+: (method object name).written :=
      ⟨object.chars, name.chars, by simp [written]⟩
    simpa using (occursIn_iff_isInfix _ _).2 hstretch
  | function name =>
    rw [Bool.eq_false_iff]
    intro h
    have hstretch : [':', ':'] <:+: name.chars :=
      (occursIn_iff_isInfix _ (function name).written).1 (by simpa using h)
    exact name.not_mem DefaultPattern.isWord_colon (hstretch.subset List.mem_cons_self)

end Callee

/-- A body whose groups are known is captured. -/
theorem capture_of_captures {p : Pattern} {body : List Char} {groups : Captures}
    (h : p.captures body = some groups) (kind : StatementKind) :
    defaultBodyPatterns.capture p kind (String.ofList body) =
      some (defaultBodyPatterns.captured p kind groups) := by
  rw [BodyPatterns.capture_eq_map, String.toList_ofList, h, Option.map_some]

/-- A statement that is captured takes the groups of its pattern in order. -/
theorem capture_of_groups {p : Pattern} {body : List Char} {groups : Captures}
    (hcaptures : p.captures body = some groups) {texts : List (String × String)}
    (hgroups : BodyPatterns.groupsOf p groups = texts) (kind : StatementKind) :
    defaultBodyPatterns.capture p kind (String.ofList body) =
      some (texts.foldl (BodyPatterns.takeGroup defaultBodyPatterns.paramSyntax) { kind := kind }) := by
  rw [capture_of_captures hcaptures, BodyPatterns.captured, hgroups]

namespace Callee

/-- What a call says, whoever calls. A function is its own entity. -/
def statement (c : Callee) (arguments : Inline ')') : Statement where
  kind := .invoke
  attributes := match c with
    | .method object name => Dict.ofList [("called", object.text), ("method", name.text)]
    | .function name => Dict.ofList [("method", name.text), ("called", name.text)]
  params := some (defaultBodyPatterns.paramSyntax.read arguments.text)

/-- The statement of a call, whatever the arguments are. -/
theorem callStatement?_written (c : Callee) (arguments : Inline ')') :
    Handler.callStatement? defaultBodyPatterns
      (String.ofList (c.written ++ '(' :: (arguments.chars ++ [')']))) = some (c.statement arguments) := by
  -- marks in the arguments do not count, so the form of the callee decides about the pattern
  have hmarker : Handler.callsMethod defaultBodyPatterns.scopeMarker
      (String.ofList (c.written ++ '(' :: (arguments.chars ++ [')']))) = _ := c.callsMethod _
  rw [Handler.callStatement?, hmarker]
  cases c with
  | method object name =>
    obtain ⟨groups, hcaptures, hobject, hname, hparams⟩ :=
      DefaultPattern.captures_methodInvoke object name arguments
    have hgroups : BodyPatterns.groupsOf DefaultPattern.methodInvoke groups =
        [("called", object.text), ("method", name.text), ("params", arguments.text)] := by
      have hnames : DefaultPattern.methodInvoke.groupNames = ["called", "method", "params"] := rfl
      simp [BodyPatterns.groupsOf, hnames, hobject, hname, hparams]
    have hbody : (method object name).written ++ '(' :: (arguments.chars ++ [')']) =
        object.chars ++ ':' :: ':' :: (name.chars ++ '(' :: (arguments.chars ++ [')'])) := by
      simp [written]
    rw [if_pos rfl, hbody]
    exact capture_of_groups hcaptures hgroups .invoke
  | function name =>
    obtain ⟨groups, hcaptures, hname, hparams⟩ := DefaultPattern.captures_functionInvoke name arguments
    have hgroups : BodyPatterns.groupsOf DefaultPattern.functionInvoke groups =
        [("method", name.text), ("params", arguments.text)] := by
      have hnames : DefaultPattern.functionInvoke.groupNames = ["method", "params"] := rfl
      simp [BodyPatterns.groupsOf, hnames, hname, hparams]
    rw [if_neg Bool.false_ne_true, written,
      show defaultBodyPatterns.functionInvoke = DefaultPattern.functionInvoke from rfl,
      capture_of_groups hcaptures hgroups]
    rfl

end Callee

/-- The statement of a call says whom it calls. -/
theorem Call.callStatement?_body (c : Call) :
    ∃ s, Handler.callStatement? defaultBodyPatterns (String.ofList c.body) = some s ∧
      s.kind = .invoke ∧ s.value? "called" = some c.callee.entity.text ∧
      s.value? "method" = some c.callee.name.text := by
  refine ⟨_, c.callee.callStatement?_written c.arguments, rfl, ?_, ?_⟩
  · cases c.callee <;> rfl
  · cases c.callee <;> rfl

/-- A return takes over from its call who called, and whom if it does not say so itself. -/
theorem callEvent_foldl_inherit {c : Call} {call s : Statement} {caller : String}
    (hcall : call.callEvent = c.event .invoke caller) (hkind : s.kind = .methodReturn)
    (hcaller : s.value? "caller" = none)
    (hcalled : s.value? "called" = some c.callee.entity.text ∨ s.value? "called" = some "")
    (hmethod : s.value? "method" = some c.callee.name.text) :
    (["caller", "called", "method"].foldl (Handler.inherit call) s).callEvent =
      c.event .methodReturn caller := by
  simp only [Statement.callEvent, Call.event, CallEvent.mk.injEq] at hcall
  obtain ⟨-, hcaller', hcalled', -⟩ := hcall
  have hname : c.callee.name.text.isEmpty = false := Word.isEmpty_text _
  have hentity : c.callee.entity.text.isEmpty = false := Word.isEmpty_text _
  simp only [List.foldl_cons, List.foldl_nil, Statement.callEvent, Call.event, CallEvent.mk.injEq,
    Handler.kind_inherit, hkind, true_and]
  refine ⟨?_, ?_, ?_⟩
  · simp [Handler.value?_inherit, hcaller, hcaller']
  · rcases hcalled with h | h <;> simp [Handler.value?_inherit, h, hcalled', hentity]
  · simp [Handler.value?_inherit, hmethod, hname]

/-- The statement of a return that closes its call, whoever called. -/
theorem Call.returned_body (c : Call) {call : Statement} {caller : String}
    (hcall : call.callEvent = c.event .invoke caller) :
    ∃ s, Handler.returned defaultBodyPatterns call (String.ofList c.returnBody) = some s ∧
      s.callEvent = c.event .methodReturn caller := by
  have hnames : DefaultPattern.methodReturn.groupNames = ["called", "method"] := rfl
  -- only the return of a method says whom it returns from
  have hgroups : ∃ groups, DefaultPattern.methodReturn.captures c.returnBody = some groups ∧
      (groups.get? "called" = some c.callee.entity.text ∨ groups.get? "called" = none) ∧
      groups.get? "method" = some c.callee.name.text := by
    obtain ⟨callee, arguments, entry, exit⟩ := c
    cases callee with
    | method object name =>
      obtain ⟨groups, h, hcalled, hmethod⟩ := DefaultPattern.captures_methodReturn_method object name
      exact ⟨groups, h, .inl hcalled, hmethod⟩
    | function name =>
      obtain ⟨groups, h, hcalled, hmethod⟩ := DefaultPattern.captures_methodReturn_function name
      exact ⟨groups, h, .inr hcalled, hmethod⟩
  obtain ⟨groups, hcaptures, hcalled, hmethod⟩ := hgroups
  have hcapture : defaultBodyPatterns.capture defaultBodyPatterns.methodReturn .methodReturn
      (String.ofList c.returnBody) = some _ := capture_of_captures hcaptures .methodReturn
  refine ⟨_, by rw [Handler.returned, hcapture, Option.map_some], ?_⟩
  refine callEvent_foldl_inherit hcall (BodyPatterns.kind_captured _ _ _ _) ?_ ?_ ?_
  · rw [BodyPatterns.value?_captured, hnames]
    simp
  · rw [BodyPatterns.value?_captured, hnames]
    -- a group that took no part is captured as the empty text
    rcases hcalled with h | h <;> simp [h]
  · rw [BodyPatterns.value?_captured, hnames, hmethod]
    simp

/-! ## Reading lines -/

/-- Completing a statement does not change what it says about a call. -/
theorem callEvent_complete (fields : LineFields) (remark : Remark) (s : Statement) :
    (TraceReader.complete fields remark s).callEvent = s.callEvent := by
  simp [TraceReader.complete, Statement.callEvent]

/-- Reading a line stores what the rules make of its fields, completed. -/
theorem step_line (state : TraceState) (stamp : Stamp) (category : Word) {body : List Char}
    (hbody : '\n' ∉ body) (hhead : ∀ c ∈ body.head?, isBlank c = false) :
    ∃ fields remark, fields.category = category.text ∧ fields.body = String.ofList body ∧
      (defaultReader.step state (String.ofList (stamp.line category body))).1.stack =
        (defaultRules.construct fields state.stack).2 ∧
      (defaultReader.step state (String.ofList (stamp.line category body))).1.parsed.statements =
        state.parsed.statements ++
          ((defaultRules.construct fields state.stack).1.map (TraceReader.complete fields remark)).toList := by
  obtain ⟨groups, hgroups, hfields, hremark⟩ := DefaultPattern.captures_line stamp category hbody hhead
  have hon : defaultReader.groupsOn (String.ofList (stamp.line category body)) = some groups := by
    rw [TraceReader.groupsOn, String.toList_ofList]
    exact hgroups
  have hfieldsOn : defaultReader.fieldsOn (String.ofList (stamp.line category body)) =
      some (TraceReader.fieldsOf groups) := by
    rw [TraceReader.fieldsOn, hon, Option.map_some]
  refine ⟨TraceReader.fieldsOf groups, TraceReader.remarkOf groups, by rw [hfields], by rw [hfields],
    ?_, ?_⟩
  · rw [TraceReader.step_fst, defaultReader.construction_of_fieldsOn hfieldsOn]
    rfl
  · rw [TraceReader.step_fst, ParsedTrace.statements_storeAny, TraceReader.completed, hon]
    rfl

/-- A callee is written with the name of its entity first. -/
theorem Callee.entity_isPrefix_written (c : Callee) : c.entity.chars <+: c.written := by
  cases c with
  | method object name => exact List.prefix_append _ _
  | function name => exact List.prefix_refl _

/-- A word is written on one line. -/
theorem Word.newline_not_mem : ∀ w : Word, '\n' ∉ w.chars := Word.not_mem (by decide)

namespace Stamp

variable (s : Stamp) (category : Word) {body : List Char}

/-- A line whose body is on one line contains no newline. -/
theorem newline_not_mem_line (hbody : '\n' ∉ body) : '\n' ∉ s.line category body := by
  simp [line, s.time.newline_not_mem, s.generator.newline_not_mem, s.file.newline_not_mem,
    category.newline_not_mem, hbody]

/-- A line ends as its body does. -/
theorem getLast?_line (hbody : body ≠ []) : (s.line category body).getLast? = body.getLast? := by
  have hsuffix : ∃ before, s.line category body = before ++ body :=
    ⟨'[' :: (s.time.chars ++ ']' :: '[' :: (s.generator.chars ++ ']' :: '[' :: (s.file.chars ++
      ']' :: ' ' :: (category.chars ++ [' '])))), by simp [line]⟩
  obtain ⟨before, hbefore⟩ := hsuffix
  rw [hbefore, List.getLast?_append_of_ne_nil _ hbody]

end Stamp

namespace Call

variable (c : Call) (state : TraceState)

theorem newline_not_mem_body : '\n' ∉ c.body := by
  have harguments := c.arguments.newline_not_mem
  cases hc : c.callee <;> simp [body, hc, Callee.written, Word.newline_not_mem, harguments]

theorem newline_not_mem_returnBody : '\n' ∉ c.returnBody := by
  cases hc : c.callee <;> simp [returnBody, hc, Callee.writtenAtReturn, Word.newline_not_mem]

theorem getLast?_body : c.body.getLast? = some ')' := by simp [body, List.getLast?_cons]

theorem getLast?_returnBody_ne : c.returnBody.getLast? ≠ some '\r' := by
  cases hc : c.callee with
  | method object name => simp [returnBody, hc, Callee.writtenAtReturn, List.getLast?_cons]
  | function name =>
    have hsplit : c.returnBody = ['f', 'r', 'o', 'm', ' '] ++ name.chars := by
      rw [returnBody, hc]
      rfl
    rw [hsplit, List.getLast?_append_of_ne_nil _ name.ne_nil]
    exact fun h => Word.not_mem (by decide) name (List.mem_of_getLast? h)

/-- **Step lemma**: reading the line of a call stores its event and opens it. -/
theorem step_entry : ∃ s call,
    (defaultReader.step state (String.ofList c.entryLine)).1.parsed.statements =
      state.parsed.statements ++ [s] ∧
    (defaultReader.step state (String.ofList c.entryLine)).1.stack = state.stack.push call ∧
    s.callEvent = c.event .invoke state.stack.caller ∧
    call.callEvent = c.event .invoke state.stack.caller := by
  have hhead : ∀ d ∈ c.body.head?, isBlank d = false :=
    DefaultPattern.isBlank_head?_of_word
      (c.callee.entity_isPrefix_written.trans (List.prefix_append _ _))
  obtain ⟨fields, remark, hcategory, hbody, hstack, hstatements⟩ :=
    step_line state c.entry .called c.newline_not_mem_body hhead
  obtain ⟨s, hs, hkind, hcalled, hmethod⟩ := c.callStatement?_body
  have hfor : defaultRules.handlerFor fields.category = Handler.invoke := by
    rw [hcategory]
    exact ExtractionRules.handlerFor_of_invoke rfl (by decide)
  have hconstruct : defaultRules.construct fields state.stack =
      (some (s.setAttribute "caller" state.stack.caller),
        state.stack.push (s.setAttribute "caller" state.stack.caller)) := by
    rw [ExtractionRules.construct, hfor]
    rw [← hbody] at hs
    exact Handler.invoke_of_some hs state.stack
  rw [hconstruct] at hstack hstatements
  -- the open call is not yet completed, but it says the same about the call
  have hevent : (s.setAttribute "caller" state.stack.caller).callEvent =
      c.event .invoke state.stack.caller := by
    simp [Statement.callEvent, event, hkind, hcalled, hmethod]
  exact ⟨_, _, hstatements, hstack, by rw [callEvent_complete, hevent], hevent⟩

/-- **Step lemma**: reading the line of a return stores its event and closes the innermost call, if that is
its own. -/
theorem step_exit {call : Statement} {stack : CallStack} (hopen : state.stack = stack.push call)
    {caller : String} (hcall : call.callEvent = c.event .invoke caller) : ∃ s,
    (defaultReader.step state (String.ofList c.exitLine)).1.parsed.statements =
      state.parsed.statements ++ [s] ∧
    (defaultReader.step state (String.ofList c.exitLine)).1.stack = stack ∧
    s.callEvent = c.event .methodReturn caller := by
  have hhead : ∀ d ∈ c.returnBody.head?, isBlank d = false := by
    intro d hd
    rw [← Option.mem_some_iff.1 hd]
    decide
  obtain ⟨fields, remark, hcategory, hbody, hstack, hstatements⟩ :=
    step_line state c.exit .returned c.newline_not_mem_returnBody hhead
  obtain ⟨s, hs, hevent⟩ := c.returned_body hcall
  have hfor : defaultRules.handlerFor fields.category = Handler.methodReturn := by
    rw [hcategory]
    exact ExtractionRules.handlerFor_of_return rfl (by decide)
  have hconstruct : defaultRules.construct fields state.stack = (some s, stack) := by
    rw [ExtractionRules.construct, hfor, hopen]
    rw [← hs, ← hbody]
    exact Handler.methodReturn_push _ fields call stack.frames stack.root
  rw [hconstruct] at hstack hstatements
  exact ⟨_, hstatements, hstack, by rw [callEvent_complete, hevent]⟩

end Call

/-! ## Reading logs -/

namespace CallForest

/-- **Run lemma**: reading a log stores its events, made by the entity that is executing, and leaves the
open calls as they were. -/
theorem run_log (f : CallForest) (state : TraceState) : ∃ ss,
    (defaultReader.run state (f.log.map String.ofList)).1.parsed.statements =
      state.parsed.statements ++ ss ∧
    (defaultReader.run state (f.log.map String.ofList)).1.stack = state.stack ∧
    ss.map Statement.callEvent = f.events state.stack.caller := by
  induction f generalizing state with
  | nil => exact ⟨[], (List.append_nil _).symm, rfl, rfl⟩
  | node c inner later ih₁ ih₂ =>
    -- the call is the innermost open one while the calls made in it are read
    obtain ⟨s, call, hstatements, hstack, hs, hcall⟩ := c.step_entry state
    obtain ⟨ss₁, hstatements₁, hstack₁, hss₁⟩ :=
      ih₁ (defaultReader.step state (String.ofList c.entryLine)).1
    obtain ⟨s', hstatements', hstack', hs'⟩ := c.step_exit _ (hstack₁.trans hstack) hcall
    obtain ⟨ss₂, hstatements₂, hstack₂, hss₂⟩ := ih₂ (defaultReader.step _ (String.ofList c.exitLine)).1
    -- what is called is executing until its return
    have hcaller : (state.stack.push call).caller = c.callee.entity.text := by
      have hcalled := congrArg CallEvent.called hcall
      simp only [Statement.callEvent, Call.event] at hcalled
      simp [CallStack.caller, hcalled]
    rw [hstack, hcaller] at hss₁
    rw [hstack'] at hss₂
    have hlog : (node c inner later).log.map String.ofList = String.ofList c.entryLine ::
        (inner.log.map String.ofList ++ String.ofList c.exitLine :: later.log.map String.ofList) := by
      simp [log]
    rw [hlog, TraceReader.run_cons_fst, TraceReader.run_append_fst, TraceReader.run_cons_fst]
    refine ⟨s :: ss₁ ++ s' :: ss₂, ?_, ?_, ?_⟩
    · rw [hstatements₂, hstatements', hstatements₁, hstatements]
      simp
    · rw [hstack₂, hstack']
    · simp [events, hs, hs', hss₁, hss₂]

/-- No line of a log contains a newline or ends with a carriage return. -/
theorem isLine_of_mem_log (f : CallForest) :
    ∀ line ∈ f.log, '\n' ∉ line ∧ line.getLast? ≠ some '\r' := by
  induction f with
  | nil => exact List.forall_mem_nil _
  | node c inner later ih₁ ih₂ =>
    intro line hline
    simp only [log, List.mem_append, List.mem_cons] at hline
    rcases hline with (rfl | hline) | rfl | hline
    · refine ⟨c.entry.newline_not_mem_line _ c.newline_not_mem_body, ?_⟩
      rw [Call.entryLine, Stamp.getLast?_line _ _ (by simp [Call.body]), c.getLast?_body]
      decide
    · exact ih₁ line hline
    · refine ⟨c.exit.newline_not_mem_line _ c.newline_not_mem_returnBody, ?_⟩
      rw [Call.exitLine, Stamp.getLast?_line _ _ (by simp [Call.returnBody])]
      exact c.getLast?_returnBody_ne
    · exact ih₂ line hline

/-- The lines of the log are those of its text. -/
theorem lines_text (f : CallForest) : Text.lines f.text.toList = f.log := by
  rw [text, String.toList_ofList]
  have hlines := f.isLine_of_mem_log
  generalize f.log = log at hlines
  induction log with
  | nil => rfl
  | cons line log ih =>
    obtain ⟨hnewline, hreturn⟩ := hlines line List.mem_cons_self
    rw [List.flatMap_cons, List.append_assoc, List.singleton_append,
      lines_append hnewline hreturn, ih fun l hl => hlines l (List.mem_cons_of_mem line hl)]

end CallForest

/-- **The default configuration gets every forest of calls back.** -/
theorem callEvents_read : ∃ r, TraceReader.ofConfig {} = .ok r ∧ ∀ f : CallForest,
    (r.read f.text).1 = r.after (f.log.map String.ofList) ∧
    (r.read f.text).1.parsed.statements.map Statement.callEvent = f.events "System" ∧
    (r.read f.text).1.parsed.statements.length = 2 * f.size ∧
    (r.read f.text).1.stack.frames = [] := by
  refine ⟨defaultReader, ofConfig_default, fun f => ?_⟩
  have hread : (defaultReader.read f.text).1 = defaultReader.after (f.log.map String.ofList) := by
    rw [TraceReader.read, f.lines_text, TraceReader.after]
  obtain ⟨ss, hstatements, hstack, hss⟩ := f.run_log defaultReader.start
  rw [← TraceReader.after, ← hread] at hstatements hstack
  have hevents : (defaultReader.read f.text).1.parsed.statements.map Statement.callEvent =
      f.events "System" := by
    rw [hstatements, List.map_append, hss]
    rfl
  refine ⟨hread, hevents, ?_, by rw [hstack]; rfl⟩
  rw [← f.length_events "System", ← hevents, List.length_map]

end TraceDiagram
