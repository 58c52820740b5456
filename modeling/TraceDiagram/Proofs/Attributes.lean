import TraceDiagram.Proofs.CallChain

/-! # Where attributes come from

The attributes of a statement come from three layers: what its handler sets, what the named groups of its body
matched, and what is known about its line. In this order, the first that has an attribute gives its value.

* **`BodyPatterns.groupPattern?`** the pattern whose groups a statement takes; **`groupAttributes`**,
  **`Handler.settings`** and **`lineAttributes`** the layers.
* **`Statement.Made`** a statement of the first two layers; **`made_of_builtin`** the handlers that there are
  make such statements.
* **`Handler.addedKeys`** the attributes that a handler adds to the groups, which do not depend on what matched.
* **`Statement.Layered`** a statement of all three layers; **`layered_completed`** those of a trace are such. -/

namespace TraceDiagram

open Text

/-! ## Layers -/

section Pairs

variable {α : Type} {names : List String} {key : String}

/-- The value of a name when each name has one. -/
theorem lookup_map_pair (text : String → α) :
    (names.map fun name => (name, text name)).lookup key = if key ∈ names then some (text key) else none := by
  induction names with
  | nil => rfl
  | cons name names ih =>
    rw [List.map_cons, lookup_cons_ite, ih]
    by_cases h : key = name <;> simp [h]

/-- The value of a name when only some names have one. -/
theorem lookup_filterMap_pair (value? : String → Option α) :
    (names.filterMap fun name => (value? name).map (name, ·)).lookup key =
      if key ∈ names then value? key else none := by
  induction names with
  | nil => rfl
  | cons name names ih =>
    rw [List.filterMap_cons]
    by_cases h : key = name
    · subst h
      cases hvalue : value? key with
      | none => simp [ih, hvalue]
      | some value => simp
    · cases value? name with
      | none => simp [ih, h]
      | some value => simp [lookup_cons_ite, ih, h]

end Pairs

/-- The pattern whose groups a statement of a kind takes for attributes, if its kind takes any. A call takes
those of the pattern for its form. -/
def BodyPatterns.groupPattern? (patterns : BodyPatterns) (body : String) : StatementKind → Option Pattern
  | .messageReceive => some patterns.messageReceive
  | .messageSend => some patterns.messageSend
  | .invoke =>
    some (if Handler.callsMethod patterns.scopeMarker body then patterns.methodInvoke
      else patterns.functionInvoke)
  | .methodReturn => some patterns.methodReturn
  | .create => some patterns.create
  | .delete => some patterns.delete
  | .stateChange | .startTimer | .stopTimer | .expiredTimer | .allocate | .free | .beginAction | .endAction
  | .genericAction => none

/-- The pattern whose groups are taken, if there is one, matches the body. -/
def BodyPatterns.Fits (patterns : BodyPatterns) (body : String) (kind : StatementKind) : Prop :=
  ∀ p, patterns.groupPattern? body kind = some p → ∃ c, p.captures body.toList = some c

/-- The attributes that the named groups give; a group that took no part in the match gives the empty text. -/
def BodyPatterns.groupAttributes (patterns : BodyPatterns) (body : String) (kind : StatementKind) :
    List (String × String) :=
  ((patterns.groupPattern? body kind).bind fun p => (p.captures body.toList).map fun c =>
    (p.groupNames.filter (· ≠ "params")).map fun name => (name, (c.get? name).getD "")).getD []

/-- The attributes that a handler sets, whatever the groups have in them. A function is called by its own name,
and a return takes from the call that it closes what its body leaves out. -/
def Handler.settings (patterns : BodyPatterns) (fields : LineFields) (stack : CallStack)
    (kind : StatementKind) : List (String × String) :=
  match kind with
  | .messageReceive => [("destination", fields.generator)]
  | .messageSend => [("source", fields.generator)]
  | .create => [("creator", fields.generator)]
  | .delete => [("deletor", fields.generator)]
  | .invoke =>
    ("caller", stack.caller) ::
      if callsMethod patterns.scopeMarker fields.body then []
      else (((patterns.groupAttributes fields.body .invoke).lookup "method").map ("called", ·)).toList
  | .methodReturn =>
    inheritedKeys.filterMap fun key =>
      (if (((patterns.groupAttributes fields.body .methodReturn).lookup key).getD "").isEmpty then
        stack.top?.bind (·.value? key) else none).map (key, ·)
  | .stateChange => [("object", stack.caller), ("state", trim fields.body)]
  | .startTimer | .stopTimer | .expiredTimer =>
    [("object", stack.caller),
      ("timer", ((patterns.timer.captures fields.body.toList).bind (·.get? "timer")).getD (trim fields.body))]
  | .allocate | .free => [("object", stack.caller), ("resource", trim fields.body)]
  | .beginAction | .endAction => [("object", stack.caller), ("action", trim fields.body)]
  | .genericAction =>
    [("actor", stack.caller), ("action_type", fields.category), ("action", trim fields.body)]

/-- The attributes that are known about a line. -/
def lineAttributes (fields : LineFields) (remark : Remark) : List (String × String) :=
  [("time", remark.time), ("file", remark.file), ("generator", fields.generator),
    ("category", fields.category)]

/-! ## Handlers -/

/-- What a handler makes of a line: its settings over the groups of its pattern. -/
structure Statement.Made (s : Statement) (patterns : BodyPatterns) (fields : LineFields)
    (stack : CallStack) : Prop where
  /-- The pattern whose groups are taken matches the body. -/
  fits : patterns.Fits fields.body s.kind
  /-- The settings come first, the groups after them. -/
  values : ∀ key, s.value? key = (Handler.settings patterns fields stack s.kind ++
    patterns.groupAttributes fields.body s.kind).lookup key
  /-- There are parameters if the pattern has a group for them. -/
  params : s.params.isSome = true ↔
    ∃ p, patterns.groupPattern? fields.body s.kind = some p ∧ "params" ∈ p.groupNames

section Made

variable {patterns : BodyPatterns} {fields : LineFields} {stack : CallStack} {s : Statement}
  {kind : StatementKind}

/-- The groups of a pattern that matches give what a captured statement has. -/
theorem BodyPatterns.lookup_groupAttributes {body : String} {p : Pattern} {c : Captures}
    (hp : patterns.groupPattern? body kind = some p) (hc : p.captures body.toList = some c) (key : String) :
    (patterns.groupAttributes body kind).lookup key = (patterns.captured p kind c).value? key := by
  rw [groupAttributes, hp, Option.bind_some, hc, Option.map_some, Option.getD_some, lookup_map_pair,
    value?_captured]
  simp

/-- Settings over a captured statement. -/
theorem Statement.made_of_captured {p : Pattern} {c : Captures} (hkind : s.kind = kind)
    (hp : patterns.groupPattern? fields.body kind = some p) (hc : p.captures fields.body.toList = some c)
    (hvalues : ∀ key, s.value? key =
      ((Handler.settings patterns fields stack kind).lookup key).or ((patterns.captured p kind c).value? key))
    (hparams : s.params = (patterns.captured p kind c).params) : s.Made patterns fields stack := by
  subst hkind
  refine ⟨?_, ?_, ?_⟩
  · intro q hq
    obtain rfl : p = q := Option.some_inj.1 (hp.symm.trans hq)
    exact ⟨c, hc⟩
  · intro key
    rw [hvalues, List.lookup_append, BodyPatterns.lookup_groupAttributes hp hc]
  · rw [hparams, BodyPatterns.params_captured, hp]
    by_cases h : "params" ∈ p.groupNames <;> simp [h]

/-- Settings alone. -/
theorem Statement.made_of_settings (kind : StatementKind) (hkind : s.kind = kind)
    (hp : patterns.groupPattern? fields.body kind = none)
    (hvalues : ∀ key, s.value? key = (Handler.settings patterns fields stack kind).lookup key)
    (hparams : s.params = none) : s.Made patterns fields stack := by
  subst hkind
  refine ⟨?_, ?_, ?_⟩
  · intro q hq
    rw [hp] at hq
    cases hq
  · intro key
    rw [hvalues, BodyPatterns.groupAttributes, hp, Option.bind_none, Option.getD_none, List.append_nil]
  · simp [hparams, hp]

end Made

namespace Handler

/-- A handler that makes statements of the first two layers. -/
def Makes (handler : Handler) : Prop :=
  ∀ patterns fields stack s, (handler patterns fields stack).1 = some s → s.Made patterns fields stack

variable {kind : StatementKind}

theorem makes_byGenerator {pattern : BodyPatterns → Pattern} {name : String}
    (hpattern : ∀ patterns body, patterns.groupPattern? body kind = some (pattern patterns))
    (hsettings : ∀ patterns fields stack,
      settings patterns fields stack kind = [(name, fields.generator)]) :
    Makes (byGenerator kind pattern name) := by
  intro patterns fields stack s hs
  obtain ⟨c, hc, rfl⟩ := eq_of_byGenerator hs
  refine Statement.made_of_captured (BodyPatterns.kind_captured _ _ _ _)
    (hpattern patterns fields.body) hc (fun key => ?_) rfl
  rw [hsettings, Statement.value?_setAttribute, lookup_cons_ite]
  by_cases h : key = name <;> simp [h]

theorem makes_invoke : Makes invoke := by
  intro patterns fields stack s hs
  obtain ⟨call, hcall, rfl⟩ := eq_of_invoke hs
  -- the form of the call decides which pattern it is matched with
  obtain ⟨hmethod, c, hc, rfl⟩ | ⟨hfunction, c, hc, rfl⟩ := eq_of_callStatement? hcall
  · have hp : patterns.groupPattern? fields.body .invoke = some patterns.methodInvoke := by
      rw [BodyPatterns.groupPattern?, if_pos hmethod]
    refine Statement.made_of_captured (BodyPatterns.kind_captured _ _ _ _) hp hc (fun key => ?_) rfl
    rw [settings, if_pos hmethod, Statement.value?_setAttribute, lookup_cons_ite]
    by_cases h : key = "caller" <;> simp [h]
  · have hp : patterns.groupPattern? fields.body .invoke = some patterns.functionInvoke := by
      rw [BodyPatterns.groupPattern?, if_neg hfunction]
    refine Statement.made_of_captured (by simp) hp hc (fun key => ?_) (by simp)
    rw [settings, if_neg hfunction, BodyPatterns.lookup_groupAttributes hp hc,
      Statement.value?_setAttribute, value?_ownEntity, lookup_cons_ite]
    by_cases hcaller : key = "caller"
    · simp [hcaller]
    · by_cases hcalled : key = "called"
      · -- a function without a name keeps the entity that its body names
        subst hcalled
        cases (patterns.captured patterns.functionInvoke .invoke c).value? "method" <;> simp
      · cases (patterns.captured patterns.functionInvoke .invoke c).value? "method" <;>
          simp [hcaller, hcalled, lookup_cons_ite]

theorem makes_methodReturn : Makes methodReturn := by
  intro patterns fields stack s hs
  obtain ⟨call, c, htop, hc, rfl⟩ := eq_of_methodReturn hs
  have hp : patterns.groupPattern? fields.body .methodReturn = some patterns.methodReturn := rfl
  refine Statement.made_of_captured (by simp) hp hc (fun key => ?_) (params_foldl_inherit _ _ _)
  rw [value?_foldl_inherit call (by decide), settings, lookup_filterMap_pair,
    BodyPatterns.lookup_groupAttributes hp hc, htop, Option.bind_some, ← inheritedKeys]
  by_cases hkey : key ∈ inheritedKeys
  · -- only what the body leaves out is set
    by_cases hempty : (((patterns.captured patterns.methodReturn .methodReturn c).value? key).getD
        "").isEmpty = true
    · rw [if_pos ⟨hkey, hempty⟩, if_pos hkey, if_pos hempty]
    · rw [if_neg fun h => hempty h.2, if_pos hkey, if_neg hempty, Option.none_or]
  · rw [if_neg fun h => hkey h.1, if_neg hkey, Option.none_or]

theorem makes_timer (hpattern : ∀ patterns body, BodyPatterns.groupPattern? patterns body kind = none)
    (hsettings : ∀ patterns fields stack, settings patterns fields stack kind =
      [("object", stack.caller), ("timer",
        ((patterns.timer.captures fields.body.toList).bind (·.get? "timer")).getD (trim fields.body))]) :
    Makes (timer kind) := by
  intro patterns fields stack s hs
  obtain ⟨c, hc, rfl⟩ := eq_of_timer hs
  refine Statement.made_of_settings kind rfl (hpattern _ _) (fun key => ?_) rfl
  -- the later setting is looked for first, but the two keys differ
  rw [hsettings, hc, Option.bind_some, lookup_cons_ite, lookup_cons_ite]
  by_cases h : key = "timer" <;> simp [h]

theorem makes_ofObject {name : String} (hname : name ≠ "object")
    (hpattern : ∀ patterns body, BodyPatterns.groupPattern? patterns body kind = none)
    (hsettings : ∀ patterns fields stack, settings patterns fields stack kind =
      [("object", stack.caller), (name, trim fields.body)]) : Makes (ofObject kind name) := by
  intro patterns fields stack s hs
  obtain rfl := eq_of_ofObject hs
  refine Statement.made_of_settings kind rfl (hpattern _ _) (fun key => ?_) rfl
  rw [hsettings, lookup_cons_ite, lookup_cons_ite]
  by_cases h : key = name <;> simp [h, hname]

theorem makes_genericAction : Makes genericAction := by
  intro patterns fields stack s hs
  obtain rfl := eq_of_genericAction hs
  refine Statement.made_of_settings .genericAction rfl rfl (fun key => ?_) rfl
  rw [settings, lookup_cons_ite, lookup_cons_ite, lookup_cons_ite]
  by_cases hactor : key = "actor"
  · simp [hactor]
  · by_cases haction : key = "action" <;> simp [hactor, haction]

end Handler

/-- The handlers that there are make statements of the first two layers. -/
theorem made_of_builtin {name : String} {handler : Handler} (h : builtinHandlers.get? name = some handler) :
    handler.Makes := by
  apply forall_builtin (P := fun _ handler => handler.Makes) (h := h)
  case invoke => exact Handler.makes_invoke
  case methodReturn => exact Handler.makes_methodReturn
  case genericAction => exact Handler.makes_genericAction
  case messageReceive | messageSend | create | delete =>
    exact Handler.makes_byGenerator (fun _ _ => rfl) fun _ _ _ => rfl
  case startTimer | stopTimer | expiredTimer => exact Handler.makes_timer (fun _ _ => rfl) fun _ _ _ => rfl
  all_goals exact Handler.makes_ofObject (by decide) (fun _ _ => rfl) fun _ _ _ => rfl

/-! ## Keys -/

/-- The names of the groups that a statement of a kind takes for attributes. -/
def BodyPatterns.groupKeys (patterns : BodyPatterns) (body : String) (kind : StatementKind) : List String :=
  ((patterns.groupPattern? body kind).map fun p => p.groupNames.filter (· ≠ "params")).getD []

/-- The attributes that a handler adds to the groups. They depend on the patterns and the open calls, and on
the body only in which form a call has. -/
def Handler.addedKeys (patterns : BodyPatterns) (body : String) (stack : CallStack) :
    StatementKind → List String
  | .messageReceive => ["destination"]
  | .messageSend => ["source"]
  | .create => ["creator"]
  | .delete => ["deletor"]
  | .invoke =>
    "caller" :: if callsMethod patterns.scopeMarker body then []
      else if "method" ∈ patterns.functionInvoke.groupNames then ["called"] else []
  | .methodReturn => inheritedKeys.filter fun key => (stack.top?.bind (·.value? key)).isSome
  | .stateChange => ["object", "state"]
  | .startTimer | .stopTimer | .expiredTimer => ["object", "timer"]
  | .allocate | .free => ["object", "resource"]
  | .beginAction | .endAction => ["object", "action"]
  | .genericAction => ["actor", "action_type", "action"]

/-- The attributes that are known about every line. -/
def lineKeys : List String := ["time", "file", "generator", "category"]

section Keys

variable {patterns : BodyPatterns} {fields : LineFields} {stack : CallStack} {kind : StatementKind}

/-- The groups of a pattern that matches are there, whatever they matched. -/
theorem BodyPatterns.map_fst_groupAttributes {body : String}
    (h : patterns.Fits body kind) :
    (patterns.groupAttributes body kind).map Prod.fst = patterns.groupKeys body kind := by
  rw [groupAttributes, groupKeys]
  cases hp : patterns.groupPattern? body kind with
  | none => rfl
  | some p =>
    obtain ⟨c, hc⟩ := h p hp
    rw [Option.bind_some, hc, Option.map_some, Option.getD_some, List.map_map]
    exact List.map_id _

/-- A call sets what its handler adds. -/
theorem Handler.map_fst_settings_invoke (h : patterns.Fits fields.body .invoke) :
    (settings patterns fields stack .invoke).map Prod.fst = addedKeys patterns fields.body stack .invoke := by
  rw [settings, addedKeys]
  by_cases hmethod : callsMethod patterns.scopeMarker fields.body = true
  · rw [if_pos hmethod, if_pos hmethod]
    rfl
  · have hp : patterns.groupPattern? fields.body .invoke = some patterns.functionInvoke := by
      rw [BodyPatterns.groupPattern?, if_neg hmethod]
    obtain ⟨c, hc⟩ := h _ hp
    rw [if_neg hmethod, if_neg hmethod, BodyPatterns.lookup_groupAttributes hp hc,
      BodyPatterns.value?_captured]
    -- a function has a name if its pattern has a group for it
    by_cases hname : "method" ∈ patterns.functionInvoke.groupNames <;> simp [hname]

/-- A return sets what its handler adds, but for what its body says. -/
theorem Handler.mem_settings_methodReturn_or (key : String) :
    (key ∈ (settings patterns fields stack .methodReturn).map Prod.fst ∨
      key ∈ (patterns.groupAttributes fields.body .methodReturn).map Prod.fst) ↔
    key ∈ addedKeys patterns fields.body stack .methodReturn ∨
      key ∈ (patterns.groupAttributes fields.body .methodReturn).map Prod.fst := by
  rw [settings, addedKeys, mem_map_fst_iff_lookup_ne_none, mem_map_fst_iff_lookup_ne_none,
    lookup_filterMap_pair, List.mem_filter, Option.isSome_iff_ne_none]
  by_cases hkey : key ∈ inheritedKeys
  · -- what the body says is not empty, so that there is a group
    cases hvalue : (patterns.groupAttributes fields.body .methodReturn).lookup key <;> simp [hkey]
  · simp [hkey]

/-- The settings have the keys that the handler adds, but for those that are groups. -/
theorem Handler.mem_settings_or_groupKeys (h : patterns.Fits fields.body kind) (key : String) :
    (key ∈ (settings patterns fields stack kind).map Prod.fst ∨
      key ∈ patterns.groupKeys fields.body kind) ↔
    key ∈ addedKeys patterns fields.body stack kind ∨ key ∈ patterns.groupKeys fields.body kind := by
  cases kind with
  | invoke => rw [map_fst_settings_invoke h]
  | methodReturn =>
    rw [← BodyPatterns.map_fst_groupAttributes h]
    exact mem_settings_methodReturn_or key
  | _ => rfl

/-- The list of parameters is no attribute. -/
theorem BodyPatterns.params_not_mem_groupKeys (patterns : BodyPatterns) (body : String)
    (kind : StatementKind) : "params" ∉ patterns.groupKeys body kind := by
  rw [groupKeys]
  cases patterns.groupPattern? body kind <;> simp

/-- No handler adds an attribute of this name. -/
theorem Handler.params_not_mem_addedKeys (patterns : BodyPatterns) (body : String) (stack : CallStack)
    (kind : StatementKind) : "params" ∉ addedKeys patterns body stack kind := by
  cases kind with
  | invoke =>
    rw [addedKeys]
    split
    · decide
    · split <;> decide
  | methodReturn => exact fun h => absurd (List.mem_of_mem_filter h) (by decide)
  | _ => simp [addedKeys]

end Keys

/-! ## All layers -/

/-- A statement of all three layers. -/
structure Statement.Layered (s : Statement) (patterns : BodyPatterns) (fields : LineFields)
    (stack : CallStack) (remark : Remark) : Prop where
  /-- An attribute has the value that the first layer with this attribute gives it. -/
  values : ∀ key, s.value? key = (Handler.settings patterns fields stack s.kind ++
    patterns.groupAttributes fields.body s.kind ++ lineAttributes fields remark).lookup key
  /-- The attributes are those that the handler adds, the groups, matched or not, and those of every line. -/
  keys : ∀ key, key ∈ s.attributes.keys ↔ (key ∈ Handler.addedKeys patterns fields.body stack s.kind ∨
    key ∈ patterns.groupKeys fields.body s.kind) ∨ key ∈ lineKeys
  /-- The list of parameters is none of them. -/
  params_not_key : "params" ∉ s.attributes.keys
  /-- There is such a list exactly if groups are taken from a pattern that has one for it. -/
  params : s.params.isSome = true ↔
    ∃ p, patterns.groupPattern? fields.body s.kind = some p ∧ "params" ∈ p.groupNames
  /-- The remark says where the line came from. -/
  remark : s.remark = some remark

/-- Attributes that are set where they are missing come after those that are there. -/
theorem Statement.value?_foldl_setDefault (pairs : List (String × String)) (s : Statement) (key : String) :
    (pairs.foldl (fun s pair => s.setDefault pair.1 pair.2) s).value? key =
      (s.value? key).or (pairs.lookup key) := by
  induction pairs generalizing s with
  | nil => simp
  | cons pair pairs ih =>
    obtain ⟨name, value⟩ := pair
    rw [List.foldl_cons, ih, value?_setDefault, lookup_cons_ite]
    by_cases h : key = name
    · subst h
      cases s.value? key <;> simp
    · simp [h]

/-- Completing a statement puts what is known of its line behind its attributes. -/
theorem value?_complete (fields : LineFields) (remark : Remark) (s : Statement) (key : String) :
    (TraceReader.complete fields remark s).value? key =
      (s.value? key).or ((lineAttributes fields remark).lookup key) :=
  Statement.value?_foldl_setDefault (lineAttributes fields remark) s key

/-- Completing a statement of the first two layers makes one of all three. -/
theorem Statement.Made.layered {s : Statement} {patterns : BodyPatterns} {fields : LineFields}
    {stack : CallStack} (h : s.Made patterns fields stack) (remark : Remark) :
    (TraceReader.complete fields remark s).Layered patterns fields stack remark := by
  have hkind : (TraceReader.complete fields remark s).kind = s.kind := rfl
  have hvalues : ∀ key, (TraceReader.complete fields remark s).value? key =
      (Handler.settings patterns fields stack s.kind ++ patterns.groupAttributes fields.body s.kind ++
        lineAttributes fields remark).lookup key := by
    intro key
    rw [value?_complete, h.values, ← List.lookup_append]
  have hkeys : ∀ key, key ∈ (TraceReader.complete fields remark s).attributes.keys ↔
      (key ∈ Handler.addedKeys patterns fields.body stack s.kind ∨
        key ∈ patterns.groupKeys fields.body s.kind) ∨ key ∈ lineKeys := by
    intro key
    -- a key of the statement has a value, so that one of the layers has it; which keys are set by a return
    -- depends on what its groups matched, but not which are set or groups
    rw [Dict.mem_keys_iff_get?_ne_none, ← Statement.value?, hvalues, ← mem_map_fst_iff_lookup_ne_none,
      List.map_append, List.map_append, List.mem_append, List.mem_append,
      BodyPatterns.map_fst_groupAttributes h.fits,
      Handler.mem_settings_or_groupKeys h.fits]
    rfl
  refine ⟨hvalues, hkeys, fun hmem => ?_, h.params, rfl⟩
  rcases (hkeys "params").1 hmem with (hadded | hgroup) | hline
  · exact Handler.params_not_mem_addedKeys _ _ _ _ hadded
  · exact BodyPatterns.params_not_mem_groupKeys _ _ _ hgroup
  · exact absurd hline (by decide)

namespace TraceReader

/-- **Where attributes come from.** For every configuration, after all lines, a line that adds a statement to
the trace adds one with all three layers: what its handler sets goes before what the groups of its body
matched, and this before what is known about the line; which attributes there are does not depend on what
the groups matched, and the list of parameters is not among them. -/
theorem layered_completed {config : Config} {r : TraceReader} (h : ofConfig config = .ok r)
    (lines : List String) {line : String} {s : Statement}
    (hs : r.completed (r.after lines).stack line = some s) :
    (r.after (lines ++ [line])).parsed.statements = (r.after lines).parsed.statements ++ [s] ∧
    ∃ c, r.groupsOn line = some c ∧
      s.Layered r.rules.patterns (fieldsOf c) (r.after lines).stack (remarkOf c) := by
  refine ⟨?_, ?_⟩
  · rw [parsed_after_concat, hs, ParsedTrace.statements_storeAny, Option.toList_some]
  · simp only [completed, Option.bind_eq_some_iff, Option.map_eq_some_iff] at hs
    obtain ⟨c, hc, built, hbuilt, rfl⟩ := hs
    have hget := ExtractionRules.get?_handlerName (handlers_of_ofConfig h) (fieldsOf c).category
    exact ⟨c, hc, (made_of_builtin hget _ _ _ built hbuilt).layered (remarkOf c)⟩

/-- The function of the nested calls returns. -/
theorem nestedCalls_layered : ofConfig {} = .ok defaultReader ∧ ∃ s,
    defaultReader.completed (defaultReader.after nestedCalls).stack "[3][A][a.c] returned from step" =
      some s ∧
    s.remark = some ⟨"3", "a.c", "A"⟩ ∧ "params" ∉ s.attributes.keys := by
  obtain ⟨s, hs⟩ := Option.isSome_iff_exists.1
    (show (defaultReader.completed (defaultReader.after nestedCalls).stack
      "[3][A][a.c] returned from step").isSome = true by decide +kernel)
  obtain ⟨-, c, hc, hlayered⟩ := layered_completed ofConfig_default nestedCalls hs
  have hremark : (defaultReader.groupsOn "[3][A][a.c] returned from step").map remarkOf =
      some ⟨"3", "a.c", "A"⟩ := by decide +kernel
  rw [hc, Option.map_some] at hremark
  exact ⟨ofConfig_default, s, hs, hlayered.remark.trans hremark, hlayered.params_not_key⟩

end TraceReader

end TraceDiagram
