import TraceDiagram.Extraction.Rules

/-! # What handlers make of bodies

* **`BodyPatterns.captured`** the statement for the groups of a match; **`value?_captured`** and
  **`params_captured`** say what it carries: every named group, matched or not.
* **`ExtractionRules.handlerName`** the name under which the handler of a category is registered.
* **`snd_of_builtin`** only calls and returns touch the open calls.
* **`namesExecuting_of_builtin`** the attribute that names the executing entity is its name. -/

namespace TraceDiagram

/-! ## Captured groups -/

namespace BodyPatterns

variable (patterns : BodyPatterns) (p : Pattern) (kind : StatementKind) (c : Captures)

/-- The statement that carries the named groups of a match. -/
def captured : Statement := (groupsOf p c).foldl (takeGroup patterns.paramSyntax) { kind := kind }

theorem capture_eq_map (body : String) :
    patterns.capture p kind body = (p.captures body.toList).map (patterns.captured p kind) := rfl

/-- Taking groups leaves the kind alone. -/
theorem kind_foldl_takeGroup (x : ParamSyntax) (groups : List (String × String)) (s : Statement) :
    (groups.foldl (takeGroup x) s).kind = s.kind := by
  induction groups generalizing s with
  | nil => rfl
  | cons group groups ih =>
    rw [List.foldl_cons, ih, takeGroup]
    split <;> rfl

/-- Taking groups sets the attributes of these names. -/
theorem value?_foldl_takeGroup (x : ParamSyntax) (text : String → String) (names : List String)
    (s : Statement) (key : String) :
    ((names.map fun name => (name, text name)).foldl (takeGroup x) s).value? key =
      if key ∈ names ∧ key ≠ "params" then some (text key) else s.value? key := by
  induction names generalizing s with
  | nil => simp
  | cons name names ih =>
    rw [List.map_cons, List.foldl_cons, ih]
    by_cases hkey : key ∈ names ∧ key ≠ "params"
    · simp [hkey]
    · rw [if_neg hkey]
      by_cases hparams : name = "params"
      · -- the list of parameters is no attribute
        rw [takeGroup, if_pos hparams, Statement.value?_setParams, if_neg]
        rintro ⟨hmem, hne⟩
        rcases List.mem_cons.1 hmem with rfl | hmem
        · exact hne hparams
        · exact hkey ⟨hmem, hne⟩
      · rw [takeGroup, if_neg hparams, Statement.value?_setAttribute]
        by_cases hname : key = name
        · subst hname
          simp [hparams]
        · rw [if_neg hname, if_neg]
          rintro ⟨hmem, hne⟩
          exact hkey ⟨(List.mem_cons.1 hmem).resolve_left hname, hne⟩

/-- Taking groups reads the list of parameters from the group of this name. -/
theorem params_foldl_takeGroup (x : ParamSyntax) (text : String → String) (names : List String)
    (s : Statement) :
    ((names.map fun name => (name, text name)).foldl (takeGroup x) s).params =
      if "params" ∈ names then some (x.read (text "params")) else s.params := by
  induction names generalizing s with
  | nil => simp
  | cons name names ih =>
    rw [List.map_cons, List.foldl_cons, ih]
    -- a later group of this name would be read in place of an earlier one
    by_cases hmem : "params" ∈ names
    · simp [hmem]
    · by_cases hname : name = "params"
      · subst hname
        simp [hmem, takeGroup]
      · have hname' : ¬"params" = name := fun h => hname h.symm
        simp [hmem, hname, hname', takeGroup]

@[simp] theorem kind_captured : (patterns.captured p kind c).kind = kind :=
  kind_foldl_takeGroup _ _ _

/-- A captured statement has the named groups for attributes; a group that took no part is empty. -/
theorem value?_captured (key : String) :
    (patterns.captured p kind c).value? key =
      if key ∈ p.groupNames ∧ key ≠ "params" then some ((c.get? key).getD "") else none :=
  value?_foldl_takeGroup _ (fun name => (c.get? name).getD "") _ _ _

/-- A captured statement has parameters exactly if the pattern has a group for them. -/
theorem params_captured :
    (patterns.captured p kind c).params =
      if "params" ∈ p.groupNames then
        some (patterns.paramSyntax.read ((c.get? "params").getD "")) else none :=
  params_foldl_takeGroup _ (fun name => (c.get? name).getD "") _ _

end BodyPatterns

/-! ## Calls and inheritance -/

namespace Handler

/-- Inheriting leaves the kind alone. -/
@[simp] theorem kind_inherit (call s : Statement) (key : String) :
    (inherit call s key).kind = s.kind := by
  unfold inherit
  split
  · split <;> rfl
  · rfl

/-- An inherited attribute comes from the call where the statement has none or an empty one. -/
theorem value?_inherit (call s : Statement) (key other : String) :
    (inherit call s key).value? other =
      if other = key ∧ ((s.value? key).getD "").isEmpty then (call.value? key).or (s.value? key)
      else s.value? other := by
  unfold inherit
  by_cases he : ((s.value? key).getD "").isEmpty
  · rw [if_pos he]
    by_cases hk : other = key
    · subst hk
      cases call.value? other <;> simp [he]
    · cases call.value? key <;> simp [hk]
  · rw [if_neg he]
    simp [he]

/-- Inheriting leaves the parameters alone. -/
@[simp] theorem params_inherit (call s : Statement) (key : String) :
    (inherit call s key).params = s.params := by
  unfold inherit
  split
  · split <;> rfl
  · rfl

/-- Inheriting several attributes leaves the parameters alone. -/
theorem params_foldl_inherit (call : Statement) (keys : List String) (s : Statement) :
    (keys.foldl (inherit call) s).params = s.params := by
  induction keys generalizing s with
  | nil => rfl
  | cons key keys ih => rw [List.foldl_cons, ih, params_inherit]

/-- Of several attributes each comes from the call where the statement has none or an empty one, and all
others are those of the statement. -/
theorem value?_foldl_inherit (call : Statement) {keys : List String} (hkeys : keys.Nodup) (s : Statement)
    (other : String) :
    (keys.foldl (inherit call) s).value? other =
      if other ∈ keys ∧ ((s.value? other).getD "").isEmpty then (call.value? other).or (s.value? other)
      else s.value? other := by
  induction keys generalizing s with
  | nil => simp
  | cons key keys ih =>
    obtain ⟨hkey, hkeys⟩ := List.nodup_cons.1 hkeys
    rw [List.foldl_cons, ih hkeys, value?_inherit]
    by_cases hother : other = key
    · -- the keys that follow are other ones
      subst hother
      simp [hkey]
    · simp [hother]

/-- The statement of a call to a function: the function is its own entity. -/
def ownEntity (s : Statement) : Statement :=
  match s.value? "method" with
  | some method => s.setAttribute "called" method
  | none => s

@[simp] theorem kind_ownEntity (s : Statement) : (ownEntity s).kind = s.kind := by
  unfold ownEntity
  split <;> rfl

@[simp] theorem params_ownEntity (s : Statement) : (ownEntity s).params = s.params := by
  unfold ownEntity
  split <;> rfl

/-- A function that is its own entity is called by its name, if it has one. -/
theorem value?_ownEntity (s : Statement) (other : String) :
    (ownEntity s).value? other =
      if other = "called" then (s.value? "method").or (s.value? "called") else s.value? other := by
  unfold ownEntity
  by_cases hother : other = "called"
  · subst hother
    cases s.value? "method" <;> simp
  · cases s.value? "method" <;> simp [hother]

/-- **The two forms of a call**: a method with its object, or a function that is its own entity. -/
theorem eq_of_callStatement? {patterns : BodyPatterns} {body : String} {s : Statement}
    (h : callStatement? patterns body = some s) :
    (callsMethod patterns.scopeMarker body = true ∧
      ∃ c, patterns.methodInvoke.captures body.toList = some c ∧
        patterns.captured patterns.methodInvoke .invoke c = s) ∨
    (¬callsMethod patterns.scopeMarker body = true ∧
      ∃ c, patterns.functionInvoke.captures body.toList = some c ∧
        ownEntity (patterns.captured patterns.functionInvoke .invoke c) = s) := by
  unfold callStatement? at h
  split at h
  · next hmethod =>
    rw [BodyPatterns.capture_eq_map, Option.map_eq_some_iff] at h
    exact .inl ⟨hmethod, h⟩
  · next hfunction =>
    rw [BodyPatterns.capture_eq_map, Option.map_map, Option.map_eq_some_iff] at h
    exact .inr ⟨hfunction, h⟩

/-- The statement of a call is of that kind. -/
theorem kind_callStatement? {patterns : BodyPatterns} {body : String} {s : Statement}
    (h : callStatement? patterns body = some s) : s.kind = .invoke := by
  obtain ⟨-, c, -, rfl⟩ | ⟨-, c, -, rfl⟩ := eq_of_callStatement? h
  · exact BodyPatterns.kind_captured _ _ _ _
  · rw [kind_ownEntity, BodyPatterns.kind_captured]

/-- A call whose body fits is open from then on. -/
theorem invoke_of_some {patterns : BodyPatterns} {fields : LineFields} {s : Statement}
    (h : callStatement? patterns fields.body = some s) (stack : CallStack) :
    invoke patterns fields stack =
      (some (s.setAttribute "caller" stack.caller),
        stack.push (s.setAttribute "caller" stack.caller)) := by
  simp only [invoke, h]

/-- A call whose body does not fit is passed over. -/
theorem invoke_of_none {patterns : BodyPatterns} {fields : LineFields}
    (h : callStatement? patterns fields.body = none) (stack : CallStack) :
    invoke patterns fields stack = (none, stack) := by
  simp only [invoke, h]

/-- The statement of a return that closes a call: what the body does not say comes from the call. -/
def returned (patterns : BodyPatterns) (call : Statement) (body : String) : Option Statement :=
  (patterns.capture patterns.methodReturn .methodReturn body).map fun s =>
    ["caller", "called", "method"].foldl (inherit call) s

theorem methodReturn_push (patterns : BodyPatterns) (fields : LineFields) (call : Statement)
    (frames : List Statement) (root : String) :
    methodReturn patterns fields ⟨call :: frames, root⟩ =
      (returned patterns call fields.body, ⟨frames, root⟩) := rfl

theorem methodReturn_empty (patterns : BodyPatterns) (fields : LineFields) (root : String) :
    methodReturn patterns fields ⟨[], root⟩ = (none, ⟨[], root⟩) := rfl

/-! ## What handlers make -/

section Made

variable {patterns : BodyPatterns} {fields : LineFields} {stack : CallStack} {s : Statement}
  {kind : StatementKind}

/-- A handler that adds the generator makes the captured statement with it. -/
theorem eq_of_byGenerator {pattern : BodyPatterns → Pattern} {key : String}
    (h : (byGenerator kind pattern key patterns fields stack).1 = some s) :
    ∃ c, (pattern patterns).captures fields.body.toList = some c ∧
      (patterns.captured (pattern patterns) kind c).setAttribute key fields.generator = s := by
  simpa only [byGenerator, ofStatement, BodyPatterns.capture_eq_map, Option.map_map,
    Option.map_eq_some_iff, Function.comp_apply] using h

/-- A call is made of its body and of the executing entity. -/
theorem eq_of_invoke (h : (invoke patterns fields stack).1 = some s) :
    ∃ call, callStatement? patterns fields.body = some call ∧
      call.setAttribute "caller" stack.caller = s := by
  cases hcall : callStatement? patterns fields.body with
  | none =>
    rw [invoke_of_none hcall] at h
    cases h
  | some call =>
    rw [invoke_of_some hcall] at h
    exact ⟨call, rfl, Option.some_inj.1 h⟩

/-- A return is made of its body and of the innermost call, which it closes. -/
theorem eq_of_methodReturn (h : (methodReturn patterns fields stack).1 = some s) :
    ∃ call c, stack.top? = some call ∧ patterns.methodReturn.captures fields.body.toList = some c ∧
      ["caller", "called", "method"].foldl (inherit call)
        (patterns.captured patterns.methodReturn .methodReturn c) = s := by
  -- a return without an open call makes no statement
  obtain ⟨_ | ⟨call, frames⟩, root⟩ := stack
  · rw [methodReturn_empty] at h
    cases h
  · simp only [methodReturn_push, returned, BodyPatterns.capture_eq_map, Option.map_map,
      Option.map_eq_some_iff, Function.comp_apply] at h
    obtain ⟨c, hc, rfl⟩ := h
    exact ⟨call, c, rfl, hc, rfl⟩

/-- What happens to a timer has the executing entity and the name of the timer. -/
theorem eq_of_timer (h : (timer kind patterns fields stack).1 = some s) :
    ∃ c, patterns.timer.captures fields.body.toList = some c ∧
      (({ kind := kind } : Statement).setAttribute "object" stack.caller).setAttribute "timer"
        ((c.get? "timer").getD (Text.trim fields.body)) = s := by
  simpa only [timer, ofStatement, Option.map_eq_some_iff] using h

/-- What happens to the executing entity has it and the body. -/
theorem eq_of_ofObject {key : String} (h : (ofObject kind key patterns fields stack).1 = some s) :
    (({ kind := kind } : Statement).setAttribute "object" stack.caller).setAttribute key
      (Text.trim fields.body) = s :=
  Option.some_inj.1 h

/-- Any other action has the executing entity, the category and the body. -/
theorem eq_of_genericAction (h : (genericAction patterns fields stack).1 = some s) :
    ((({ kind := .genericAction } : Statement).setAttribute "actor" stack.caller).setAttribute
      "action_type" fields.category).setAttribute "action" (Text.trim fields.body) = s :=
  Option.some_inj.1 h

end Made

end Handler

/-! ## Handlers by name -/

/-- The names of the handlers that there are stand each once. -/
theorem entries_builtinHandlers : builtinHandlers.entries = [
    ("MessageReceive", Handler.messageReceive), ("MessageSend", Handler.messageSend),
    ("Invoke", Handler.invoke), ("Return", Handler.methodReturn), ("Create", Handler.create),
    ("Delete", Handler.delete), ("StateChange", Handler.ofObject .stateChange "state"),
    ("StartTimer", Handler.timer .startTimer), ("StopTimer", Handler.timer .stopTimer),
    ("ExpiredTimer", Handler.timer .expiredTimer), ("Allocate", Handler.ofObject .allocate "resource"),
    ("Free", Handler.ofObject .free "resource"),
    ("BeginAction", Handler.ofObject .beginAction "action"),
    ("EndAction", Handler.ofObject .endAction "action"), ("Action", Handler.genericAction)] :=
  Dict.entries_ofList (by decide)

/-- What holds of each of the handlers that there are holds of whatever is registered under a name. -/
theorem forall_builtin {P : String → Handler → Prop}
    (messageReceive : P "MessageReceive" Handler.messageReceive)
    (messageSend : P "MessageSend" Handler.messageSend) (invoke : P "Invoke" Handler.invoke)
    (methodReturn : P "Return" Handler.methodReturn) (create : P "Create" Handler.create)
    (delete : P "Delete" Handler.delete)
    (stateChange : P "StateChange" (Handler.ofObject .stateChange "state"))
    (startTimer : P "StartTimer" (Handler.timer .startTimer))
    (stopTimer : P "StopTimer" (Handler.timer .stopTimer))
    (expiredTimer : P "ExpiredTimer" (Handler.timer .expiredTimer))
    (allocate : P "Allocate" (Handler.ofObject .allocate "resource"))
    (free : P "Free" (Handler.ofObject .free "resource"))
    (beginAction : P "BeginAction" (Handler.ofObject .beginAction "action"))
    (endAction : P "EndAction" (Handler.ofObject .endAction "action"))
    (genericAction : P "Action" Handler.genericAction) {name : String} {handler : Handler}
    (h : builtinHandlers.get? name = some handler) : P name handler := by
  have hmem := Dict.mem_entries_of_get? h
  have hall : ∀ entry ∈ builtinHandlers.entries, P entry.1 entry.2 := by
    rw [entries_builtinHandlers]
    simp only [List.forall_mem_cons]
    exact ⟨messageReceive, messageSend, invoke, methodReturn, create, delete, stateChange, startTimer,
      stopTimer, expiredTimer, allocate, free, beginAction, endAction, genericAction,
      List.forall_mem_nil _⟩
  exact hall (name, handler) hmem

namespace ExtractionRules

/-- The rules of a configuration are its patterns for bodies, the handlers that there are and its names for
them. -/
theorem ofConfig_eq_ok_iff (config : Config) (r : ExtractionRules) :
    ofConfig config = .ok r ↔ ∃ patterns, BodyPatterns.ofConfig config = .ok patterns ∧
      ⟨patterns, builtinHandlers, config.trace.mapping, config.trace.defaultHandler⟩ = r := by
  rw [ofConfig]
  cases BodyPatterns.ofConfig config <;> simp [bind, Except.bind, pure, Except.pure]

/-- The name of the handler for categories without one: the default one, if it stands for a handler, or
else the one for any action. -/
def fallbackName (r : ExtractionRules) : String :=
  if r.handlers.contains r.defaultHandler then r.defaultHandler else "Action"

/-- The name under which the handler of a category is registered: the category's own, if it stands for a
handler, or else the one for categories without one. -/
def handlerName (r : ExtractionRules) (category : String) : String :=
  match r.mapping.get? category with
  | some name => if r.handlers.contains name then name else r.fallbackName
  | none => r.fallbackName

/-- With the handlers that there are, categories without a handler get the one of the fallback name. -/
theorem get?_fallbackName {r : ExtractionRules} (h : r.handlers = builtinHandlers) :
    builtinHandlers.get? r.fallbackName =
      some ((r.handler? r.defaultHandler).getD Handler.genericAction) := by
  rw [fallbackName, handler?, h, Dict.contains]
  cases hd : builtinHandlers.get? r.defaultHandler with
  | none => rfl
  | some handler => simpa using hd

/-- With the handlers that there are, the handler of a category is the one of that name. -/
theorem get?_handlerName {r : ExtractionRules} (h : r.handlers = builtinHandlers) (category : String) :
    builtinHandlers.get? (r.handlerName category) = some (r.handlerFor category) := by
  rw [handlerName, handlerFor]
  cases r.mapping.get? category with
  | none => exact get?_fallbackName h
  | some name =>
    simp only [Option.bind_some, handler?, Dict.contains, h]
    -- a name that stands for no handler is passed over
    cases hn : builtinHandlers.get? name with
    | none => simpa [handler?, h] using get?_fallbackName h
    | some handler => simpa using hn

section

variable {r : ExtractionRules} (h : r.handlers = builtinHandlers) {category : String}

include h

/-- The handler of a category is the one registered under its name. -/
theorem handlerFor_eq {name : String} {handler : Handler} (hname : r.handlerName category = name)
    (hget : builtinHandlers.get? name = some handler) : r.handlerFor category = handler := by
  have hfor := get?_handlerName h category
  rw [hname, hget] at hfor
  exact (Option.some_inj.1 hfor).symm

/-- The handler of calls. -/
theorem handlerFor_of_invoke (hname : r.handlerName category = "Invoke") :
    r.handlerFor category = Handler.invoke := handlerFor_eq h hname rfl

/-- The handler of returns. -/
theorem handlerFor_of_return (hname : r.handlerName category = "Return") :
    r.handlerFor category = Handler.methodReturn := handlerFor_eq h hname rfl

end

end ExtractionRules

/-! ## Open calls and the executing entity -/

/-- The attribute in which a statement of a kind names the entity that is executing. -/
def StatementKind.executingKey? : StatementKind → Option String
  | .invoke => some "caller"
  | .stateChange | .startTimer | .stopTimer | .expiredTimer | .allocate | .free | .beginAction
  | .endAction => some "object"
  | .genericAction => some "actor"
  | .messageSend | .messageReceive | .methodReturn | .create | .delete => none

/-- Only calls and returns touch the open calls. -/
theorem snd_of_builtin {name : String} {handler : Handler}
    (h : builtinHandlers.get? name = some handler) (hinvoke : name ≠ "Invoke")
    (hreturn : name ≠ "Return") (patterns : BodyPatterns) (fields : LineFields) (stack : CallStack) :
    (handler patterns fields stack).2 = stack := by
  revert hinvoke hreturn
  apply forall_builtin (P := fun name handler =>
    name ≠ "Invoke" → name ≠ "Return" → (handler patterns fields stack).2 = stack) (h := h)
  case invoke => exact fun hinvoke _ => absurd rfl hinvoke
  case methodReturn => exact fun _ hreturn => absurd rfl hreturn
  all_goals exact fun _ _ => rfl

namespace Handler

variable {patterns : BodyPatterns} {fields : LineFields} {stack : CallStack} {s : Statement}

/-- What a handler makes of a line names the executing entity in the attribute that its kind has for it. -/
def NamesExecuting (handler : Handler) : Prop :=
  ∀ patterns fields stack s key, (handler patterns fields stack).1 = some s →
    s.kind.executingKey? = some key → s.value? key = some stack.caller

theorem namesExecuting_byGenerator {kind : StatementKind} (hkind : kind.executingKey? = none)
    (pattern : BodyPatterns → Pattern) (key : String) :
    NamesExecuting (byGenerator kind pattern key) := by
  intro patterns fields stack s key' hs hkey
  obtain ⟨c, -, rfl⟩ := eq_of_byGenerator hs
  simp [hkind] at hkey

theorem namesExecuting_invoke : NamesExecuting invoke := by
  intro patterns fields stack s key hs hkey
  obtain ⟨call, hcall, rfl⟩ := eq_of_invoke hs
  obtain rfl : "caller" = key := by
    simpa [kind_callStatement? hcall, StatementKind.executingKey?] using hkey
  simp

theorem namesExecuting_methodReturn : NamesExecuting methodReturn := by
  intro patterns fields stack s key hs hkey
  obtain ⟨call, c, -, -, rfl⟩ := eq_of_methodReturn hs
  simp [StatementKind.executingKey?] at hkey

theorem namesExecuting_timer {kind : StatementKind} (hkind : kind.executingKey? = some "object") :
    NamesExecuting (timer kind) := by
  intro patterns fields stack s key hs hkey
  obtain ⟨c, -, rfl⟩ := eq_of_timer hs
  obtain rfl : "object" = key := by simpa [hkind] using hkey
  simp

theorem namesExecuting_ofObject {kind : StatementKind} (hkind : kind.executingKey? = some "object")
    {detail : String} (hdetail : detail ≠ "object") : NamesExecuting (ofObject kind detail) := by
  intro patterns fields stack s key hs hkey
  obtain rfl := eq_of_ofObject hs
  obtain rfl : "object" = key := by simpa [hkind] using hkey
  simp [hdetail.symm]

theorem namesExecuting_genericAction : NamesExecuting genericAction := by
  intro patterns fields stack s key hs hkey
  obtain rfl := eq_of_genericAction hs
  obtain rfl : "actor" = key := by simpa [StatementKind.executingKey?] using hkey
  simp

end Handler

/-- The handlers that there are name the executing entity where their kind asks for it. -/
theorem namesExecuting_of_builtin {name : String} {handler : Handler}
    (h : builtinHandlers.get? name = some handler) : handler.NamesExecuting := by
  apply forall_builtin (P := fun _ handler => handler.NamesExecuting) (h := h)
  case invoke => exact Handler.namesExecuting_invoke
  case methodReturn => exact Handler.namesExecuting_methodReturn
  case genericAction => exact Handler.namesExecuting_genericAction
  case messageReceive | messageSend | create | delete => exact Handler.namesExecuting_byGenerator rfl _ _
  case startTimer | stopTimer | expiredTimer => exact Handler.namesExecuting_timer rfl
  all_goals exact Handler.namesExecuting_ofObject rfl (by decide)

end TraceDiagram
