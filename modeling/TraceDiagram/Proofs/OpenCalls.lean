import TraceDiagram.Proofs.Brackets
import TraceDiagram.Proofs.Default.Patterns
import TraceDiagram.Proofs.Extraction
import TraceDiagram.Proofs.Reading

/-! # Open calls and matching brackets

A call whose body fits is an opening bracket, and a return is a closing one, whether its body fits or not.

* **`TraceReader.brackets`** the brackets that some lines are; **`builtAt`** what the handler of one of them
  made of it.
* **`TraceReader.Tracks`** the invariant of reading: the open calls are those of the open brackets.
  **`exists_tracks`** is its run lemma, by the step lemmas `Tracks.neutral`, `Tracks.opening` and
  `Tracks.closing`.
* **`TraceReader.KeepsCalls`** what that says about the open calls, about returns and about the executing
  entity; **`keepsCalls_of_ofConfig`** it holds of every configuration and all lines. -/

namespace TraceDiagram

open TraceDiagram.Bracket (Closes Open Innermost ListsOpen)

namespace TraceReader

variable (r : TraceReader)

/-! ## Lines as brackets -/

/-- The bracket that a line with the given fields is: a call whose body fits opens, a return closes. -/
def bracketOfFields (fields : LineFields) : Bracket :=
  if r.rules.handlerName fields.category = "Invoke" then
    if (Handler.callStatement? r.rules.patterns fields.body).isSome then .opening else .neutral
  else if r.rules.handlerName fields.category = "Return" then .closing
  else .neutral

/-- The bracket that a line is. -/
def bracketOf (line : String) : Bracket := ((r.fieldsOn line).map r.bracketOfFields).getD .neutral

/-- The brackets that some lines are. -/
def brackets (lines : List String) : List Bracket := lines.map r.bracketOf

/-- What the handler of the line at a place made of it, in the state in which it was read. -/
def builtAt (lines : List String) (i : Nat) : Option Statement :=
  lines[i]?.bind fun line => (r.construction (r.after (lines.take i)).stack line).1

@[simp] theorem brackets_concat (lines : List String) (line : String) :
    r.brackets (lines ++ [line]) = r.brackets lines ++ [r.bracketOf line] := by
  simp [brackets]

@[simp] theorem length_brackets (lines : List String) : (r.brackets lines).length = lines.length := by
  simp [brackets]

/-- What was made of a line does not change when lines follow. -/
theorem builtAt_concat_of_lt {lines : List String} {i : Nat} (h : i < lines.length) (line : String) :
    r.builtAt (lines ++ [line]) i = r.builtAt lines i := by
  rw [builtAt, builtAt, List.getElem?_append_left h, List.take_append_of_le_length (Nat.le_of_lt h)]

/-- What was made of the last line. -/
theorem builtAt_concat_self (lines : List String) (line : String) :
    r.builtAt (lines ++ [line]) lines.length = (r.construction (r.after lines).stack line).1 := by
  rw [builtAt, List.take_left']
  · simp
  · rfl

/-! ## One line -/

section OneLine

variable {r} {line : String} (hr : r.rules.handlers = builtinHandlers) (stack : CallStack)

include hr

/-- A line that is no bracket leaves the open calls alone. -/
theorem construction_of_neutral (h : r.bracketOf line = .neutral) :
    (r.construction stack line).2 = stack := by
  cases hf : r.fieldsOn line with
  | none => rw [construction, hf]
  | some fields =>
    rw [bracketOf, hf, Option.map_some, Option.getD_some, bracketOfFields] at h
    rw [r.construction_of_fieldsOn hf, ExtractionRules.construct]
    by_cases hinvoke : r.rules.handlerName fields.category = "Invoke"
    · -- the body of the call does not fit
      rw [ExtractionRules.handlerFor_of_invoke hr hinvoke]
      rw [if_pos hinvoke] at h
      cases hc : Handler.callStatement? r.rules.patterns fields.body with
      | none => rw [Handler.invoke_of_none hc]
      | some call => simp [hc] at h
    · have hreturn : r.rules.handlerName fields.category ≠ "Return" := by
        intro hreturn
        simp [hreturn] at h
      exact snd_of_builtin (ExtractionRules.get?_handlerName hr _) hinvoke hreturn _ _ _

/-- A line that is an opening bracket opens the call that is made of it. -/
theorem construction_of_opening (h : r.bracketOf line = .opening) :
    ∃ call, r.construction stack line = (some call, stack.push call) := by
  cases hf : r.fieldsOn line with
  | none => simp [bracketOf, hf] at h
  | some fields =>
    rw [bracketOf, hf, Option.map_some, Option.getD_some, bracketOfFields] at h
    by_cases hinvoke : r.rules.handlerName fields.category = "Invoke"
    · rw [if_pos hinvoke] at h
      rw [r.construction_of_fieldsOn hf, ExtractionRules.construct,
        ExtractionRules.handlerFor_of_invoke hr hinvoke]
      cases hc : Handler.callStatement? r.rules.patterns fields.body with
      | none => simp [hc] at h
      | some call => exact ⟨_, Handler.invoke_of_some hc _⟩
    · rw [if_neg hinvoke] at h
      split at h <;> cases h

/-- A line that is a closing bracket is handled as a return. -/
theorem construction_of_closing (h : r.bracketOf line = .closing) :
    ∃ fields, r.fieldsOn line = some fields ∧
      r.construction stack line = Handler.methodReturn r.rules.patterns fields stack := by
  cases hf : r.fieldsOn line with
  | none => simp [bracketOf, hf] at h
  | some fields =>
    rw [bracketOf, hf, Option.map_some, Option.getD_some, bracketOfFields] at h
    refine ⟨fields, rfl, ?_⟩
    by_cases hinvoke : r.rules.handlerName fields.category = "Invoke"
    · rw [if_pos hinvoke] at h
      split at h <;> cases h
    · rw [if_neg hinvoke] at h
      by_cases hreturn : r.rules.handlerName fields.category = "Return"
      · rw [r.construction_of_fieldsOn hf, ExtractionRules.construct,
          ExtractionRules.handlerFor_of_return hr hreturn]
      · rw [if_neg hreturn] at h
        cases h

end OneLine

/-! ## The invariant -/

/-- The open calls after some lines are those of the open brackets, whose places are listed innermost
first. -/
structure Tracks (lines : List String) (places : List Nat) : Prop where
  /-- The places are those of the open brackets. -/
  listsOpen : ListsOpen (r.brackets lines) places
  /-- The open calls were made at these places. -/
  frames : (r.after lines).stack.frames.map some = places.map (r.builtAt lines)
  /-- The entity that executes when no call is open stays the same. -/
  root : (r.after lines).stack.root = r.tracedEntity

namespace Tracks

variable {r} {lines : List String} {places : List Nat}

/-- Each of the places is that of a line. -/
theorem lt_length (h : r.Tracks lines places) {i : Nat} (hi : i ∈ places) : i < lines.length := by
  have hopen := ((h.listsOpen.2 i).1 hi).1
  simpa using (List.getElem?_eq_some_iff.1 hopen).1

/-- What was made at the places stays the same when a line follows. -/
theorem map_builtAt_concat (h : r.Tracks lines places) (line : String) :
    places.map (r.builtAt (lines ++ [line])) = places.map (r.builtAt lines) :=
  List.map_congr_left fun _ hi => r.builtAt_concat_of_lt (h.lt_length hi) line

/-- Without places no call is open, and the root is executing. -/
theorem stack_eq_empty (h : r.Tracks lines []) : (r.after lines).stack = ⟨[], r.tracedEntity⟩ := by
  have hframes : (r.after lines).stack.frames = [] := by simpa using h.frames
  rw [← hframes, ← h.root]

/-- The call of the first place is the innermost open one. -/
theorem stack_eq_cons {place : Nat} (h : r.Tracks lines (place :: places)) :
    ∃ call frames, r.builtAt lines place = some call ∧
      (r.after lines).stack = ⟨call :: frames, r.tracedEntity⟩ ∧
      frames.map some = places.map (r.builtAt lines) := by
  have hframes := h.frames
  cases hf : (r.after lines).stack.frames with
  | nil => simp [hf] at hframes
  | cons call frames =>
    rw [hf, List.map_cons, List.map_cons, List.cons.injEq] at hframes
    refine ⟨call, frames, hframes.1.symm, ?_, hframes.2⟩
    rw [← hf, ← h.root]

variable (hr : r.rules.handlers = builtinHandlers) {line : String}

include hr

theorem neutral (h : r.Tracks lines places) (hb : r.bracketOf line = .neutral) :
    r.Tracks (lines ++ [line]) places := by
  have hstack : (r.after (lines ++ [line])).stack = (r.after lines).stack := by
    rw [stack_after_concat, construction_of_neutral hr _ hb]
  refine ⟨?_, ?_, ?_⟩
  · rw [brackets_concat, hb]
    exact h.listsOpen.neutral
  · rw [hstack, h.map_builtAt_concat, h.frames]
  · rw [hstack, h.root]

theorem opening (h : r.Tracks lines places) (hb : r.bracketOf line = .opening) :
    r.Tracks (lines ++ [line]) (lines.length :: places) := by
  obtain ⟨call, hcall⟩ := construction_of_opening hr (r.after lines).stack hb
  have hstack : (r.after (lines ++ [line])).stack = (r.after lines).stack.push call := by
    rw [stack_after_concat, hcall]
  refine ⟨?_, ?_, ?_⟩
  · rw [brackets_concat, hb, ← r.length_brackets]
    exact h.listsOpen.opening
  · rw [hstack, List.map_cons, h.map_builtAt_concat, builtAt_concat_self, hcall, ← h.frames]
    rfl
  · rw [hstack, ← h.root]
    rfl

theorem closing (h : r.Tracks lines places) (hb : r.bracketOf line = .closing) :
    r.Tracks (lines ++ [line]) places.tail := by
  obtain ⟨fields, -, hreturn⟩ := construction_of_closing hr (r.after lines).stack hb
  have hlists : ListsOpen (r.brackets (lines ++ [line])) places.tail := by
    rw [brackets_concat, hb]
    exact h.listsOpen.closing
  have hmap := h.map_builtAt_concat line
  -- without an open call there is nothing to close
  cases places with
  | nil =>
    have hstack : (r.after (lines ++ [line])).stack = ⟨[], r.tracedEntity⟩ := by
      rw [stack_after_concat, hreturn, h.stack_eq_empty, Handler.methodReturn_empty]
    exact ⟨hlists, by rw [hstack]; rfl, by rw [hstack]⟩
  | cons place places =>
    obtain ⟨call, frames, -, hcons, hframes⟩ := h.stack_eq_cons
    have hstack : (r.after (lines ++ [line])).stack = ⟨frames, r.tracedEntity⟩ := by
      rw [stack_after_concat, hreturn, hcons, Handler.methodReturn_push]
    rw [List.map_cons, List.map_cons, List.cons.injEq] at hmap
    exact ⟨hlists, by rw [hstack, List.tail_cons, hmap.2, hframes], by rw [hstack]⟩

end Tracks

/-- **Run lemma**: after any lines the open calls are those of the open brackets. -/
theorem exists_tracks {r : TraceReader} (hr : r.rules.handlers = builtinHandlers)
    (lines : List String) : ∃ places, r.Tracks lines places := by
  induction lines using List.reverseRecOn with
  | nil => exact ⟨[], Bracket.listsOpen_nil, rfl, rfl⟩
  | append_singleton lines line ih =>
    obtain ⟨places, h⟩ := ih
    -- what a line does to the places is decided by the bracket that it is
    cases hb : r.bracketOf line with
    | neutral => exact ⟨_, h.neutral hr hb⟩
    | opening => exact ⟨_, h.opening hr hb⟩
    | closing => exact ⟨_, h.closing hr hb⟩

/-! ## What the invariant says -/

/-- The entity with the given name is executing after some lines: it was called by the innermost open
bracket, or that call does not say whom it calls, or there is none, and it is the traced entity. -/
def Executes (lines : List String) (name : String) : Prop :=
  (∃ i, Innermost (r.brackets lines) i ∧
    name = ((r.builtAt lines i).bind (·.value? "called")).getD r.tracedEntity) ∨
  ((∀ i, ¬Open (r.brackets lines) i) ∧ name = r.tracedEntity)

/-- The current caller is the executing entity. -/
theorem Tracks.executes_caller {r : TraceReader} {lines : List String} {places : List Nat}
    (h : r.Tracks lines places) : r.Executes lines (r.after lines).stack.caller := by
  cases places with
  | nil =>
    rw [h.stack_eq_empty]
    exact .inr ⟨h.listsOpen.eq_nil_iff.1 rfl, rfl⟩
  | cons place places =>
    obtain ⟨call, frames, hcall, hstack, -⟩ := h.stack_eq_cons
    rw [hstack]
    refine .inl ⟨place, (h.listsOpen.innermost_iff_head place).2 rfl, ?_⟩
    rw [hcall]
    rfl

/-- What a reader does with calls and returns after some lines, in terms of matching brackets. -/
structure KeepsCalls (lines : List String) : Prop where
  /-- The open calls, outermost first, are what was made of the open brackets, in order. -/
  frames : ∃ places : List Nat, places.Pairwise (· < ·) ∧
    (∀ i, i ∈ places ↔ Open (r.brackets lines) i) ∧
    (r.after lines).stack.frames.reverse.map some = places.map (r.builtAt lines)
  /-- A line that is no bracket changes nothing about them. -/
  neutral : ∀ line, r.bracketOf line = .neutral →
    (r.after (lines ++ [line])).stack = (r.after lines).stack
  /-- A line that is an opening bracket adds the call that is made of it. -/
  opening : ∀ line, r.bracketOf line = .opening → ∃ call,
    r.builtAt (lines ++ [line]) lines.length = some call ∧
    (r.after (lines ++ [line])).stack = (r.after lines).stack.push call
  /-- A return takes over what its body does not say from the call that it closes: the innermost open one. -/
  closing : ∀ line i, r.bracketOf line = .closing → Innermost (r.brackets lines) i →
    Closes (r.brackets (lines ++ [line])) i lines.length ∧
    ∃ call fields, r.builtAt lines i = some call ∧ r.fieldsOn line = some fields ∧
      r.builtAt (lines ++ [line]) lines.length = Handler.returned r.rules.patterns call fields.body
  /-- A return that closes no call gives no statement. -/
  stray : ∀ line, r.bracketOf line = .closing → (∀ i, ¬Open (r.brackets lines) i) →
    r.completed (r.after lines).stack line = none
  /-- A statement that names the executing entity names the one that the brackets tell. -/
  executing : ∀ line s key, r.completed (r.after lines).stack line = some s →
    s.kind.executingKey? = some key → ∃ name, s.value? key = some name ∧ r.Executes lines name

/-- The statement of a line names the executing entity where its kind asks for it. -/
theorem value?_executingKey {r : TraceReader} (hr : r.rules.handlers = builtinHandlers)
    {stack : CallStack} {line : String} {s : Statement} (hs : r.completed stack line = some s)
    {key : String} (hkey : s.kind.executingKey? = some key) : s.value? key = some stack.caller := by
  obtain ⟨fields, remark, built, hfields, hbuilt, rfl⟩ := r.completed_eq_some hs
  have hkind : built.kind.executingKey? = some key := hkey
  rw [construction, hfields] at hbuilt
  have hvalue : built.value? key = some stack.caller :=
    namesExecuting_of_builtin (ExtractionRules.get?_handlerName hr _) _ _ _ _ _ hbuilt hkind
  -- completing a statement sets only what is missing
  simp only [complete, Statement.value?_setRemark, Statement.value?_setDefault]
  split_ifs <;> simp_all

/-- A configuration's reader has the handlers that there are. -/
theorem handlers_of_ofConfig {config : Config} {r : TraceReader} (h : ofConfig config = .ok r) :
    r.rules.handlers = builtinHandlers := by
  obtain ⟨p, rules, -, hrules, rfl⟩ := (ofConfig_eq_ok_iff config r).1 h
  obtain ⟨patterns, -, rfl⟩ := (ExtractionRules.ofConfig_eq_ok_iff config rules).1 hrules
  rfl

/-- Its patterns for bodies are those of the configuration. -/
theorem patterns_of_ofConfig {config : Config} {r : TraceReader} (h : ofConfig config = .ok r) :
    BodyPatterns.ofConfig config = .ok r.rules.patterns := by
  obtain ⟨p, rules, -, hrules, rfl⟩ := (ofConfig_eq_ok_iff config r).1 h
  obtain ⟨patterns, hpatterns, rfl⟩ := (ExtractionRules.ofConfig_eq_ok_iff config rules).1 hrules
  exact hpatterns

/-- **Calls and returns match like brackets.** For every configuration and all lines, the open calls, what
returns take over from them and the executing entity are what the matching of brackets tells. -/
theorem keepsCalls_of_ofConfig {config : Config} {r : TraceReader} (h : ofConfig config = .ok r)
    (lines : List String) : r.KeepsCalls lines := by
  have hr := handlers_of_ofConfig h
  obtain ⟨places, htracks⟩ := exists_tracks hr lines
  refine ⟨?_, ?_, ?_, ?_, ?_, ?_⟩
  · refine ⟨places.reverse, List.pairwise_reverse.2 htracks.listsOpen.1, fun i => ?_, ?_⟩
    · rw [List.mem_reverse, htracks.listsOpen.2]
    · rw [List.map_reverse, List.map_reverse, htracks.frames]
  · intro line hb
    rw [stack_after_concat, construction_of_neutral hr _ hb]
  · intro line hb
    obtain ⟨call, hcall⟩ := construction_of_opening hr (r.after lines).stack hb
    exact ⟨call, by rw [builtAt_concat_self, hcall], by rw [stack_after_concat, hcall]⟩
  · intro line i hb hi
    have hcloses : Closes (r.brackets (lines ++ [line])) i lines.length := by
      rw [brackets_concat, Bracket.closes_concat, hb]
      exact .inr ⟨(r.length_brackets lines).symm, rfl, hi.1.1, ((Bracket.innermost_iff _ _).1 hi).2⟩
    obtain ⟨fields, hfields, hreturn⟩ := construction_of_closing hr (r.after lines).stack hb
    cases places with
    | nil => exact absurd hi.1 (htracks.listsOpen.eq_nil_iff.1 rfl i)
    | cons place places =>
      -- the innermost open bracket is the first of the places, whose call is on top
      obtain rfl := (htracks.listsOpen.innermost_iff_head i).1 hi
      obtain ⟨call, frames, hcall, hstack, -⟩ := htracks.stack_eq_cons
      refine ⟨hcloses, call, fields, hcall, hfields, ?_⟩
      rw [builtAt_concat_self, hreturn, hstack, Handler.methodReturn_push]
  · intro line hb hnone
    obtain rfl := htracks.listsOpen.eq_nil_iff.2 hnone
    obtain ⟨fields, -, hreturn⟩ := construction_of_closing hr (r.after lines).stack hb
    cases hs : r.completed (r.after lines).stack line with
    | none => rfl
    | some s =>
      obtain ⟨-, -, built, -, hbuilt, -⟩ := r.completed_eq_some hs
      rw [hreturn, htracks.stack_eq_empty, Handler.methodReturn_empty] at hbuilt
      cases hbuilt
  · intro line s key hs hkey
    exact ⟨_, value?_executingKey hr hs hkey, htracks.executes_caller⟩

/-- The default configuration has a reader, which keeps the calls of a method that calls a function and of
a return that does not fit. -/
theorem keepsCalls_default : ofConfig {} = .ok defaultReader ∧ defaultReader.KeepsCalls
    ["[1][A][a.c] called A::run(x=1)", "[2][A][a.c] called step()", "[3][A][a.c] returned ???"] :=
  ⟨ofConfig_default, keepsCalls_of_ofConfig ofConfig_default _⟩

end TraceReader

end TraceDiagram
