import TraceDiagram.Proofs.OpenCalls

/-! # The chain of open calls

Each open call was made by the entity that executes when the call has returned, and its return says so.

* **`CallStack.Linked`** the invariant: every open call names the entity below it as its caller.
  **`Linked.push`** and **`Linked.pop`** keep it, and so does each handler: **`keepsLinked_of_builtin`**.
* **`TraceReader.linked_after`** the run lemma.
* **`Statement.ClosesCall`** what a return has from its body and what from the call that it closes.
* **`returns_close_calls`** every return of which the body fits leads back to the entity that made the call. -/

namespace TraceDiagram

/-! ## The invariant -/

namespace CallStack

/-- Each open call names as its caller the entity that executes beneath it. -/
def Linked (s : CallStack) : Prop :=
  ∀ above call beneath, s.frames = above ++ call :: beneath →
    call.value? "caller" = some (CallStack.caller ⟨beneath, s.root⟩)

variable {s : CallStack}

theorem linked_empty (root : String) : Linked ⟨[], root⟩ := by
  intro above call beneath h
  simp at h

/-- A call of the entity that is executing continues the chain. -/
theorem Linked.push (h : s.Linked) {call : Statement} (hcall : call.value? "caller" = some s.caller) :
    (s.push call).Linked := by
  intro above other beneath hframes
  -- an open call is the new one, or one that was open before
  rcases List.cons_eq_append_iff.1 hframes with ⟨-, hcons⟩ | ⟨rest, -, hrest⟩
  · obtain ⟨rfl, rfl⟩ := List.cons.inj hcons
    exact hcall
  · exact h rest other beneath hrest

/-- Closing the innermost call leaves the chain of the others. -/
theorem Linked.pop (h : s.Linked) : s.pop.2.Linked := by
  obtain ⟨_ | ⟨top, frames⟩, root⟩ := s
  · exact linked_empty root
  · intro above call beneath hframes
    exact h (top :: above) call beneath (congrArg (top :: ·) hframes)

end CallStack

/-! ## Handlers -/

namespace Handler

/-- A handler that keeps the chain of open calls. -/
def KeepsLinked (handler : Handler) : Prop :=
  ∀ patterns fields stack, stack.Linked → (handler patterns fields stack).2.Linked

theorem keepsLinked_invoke : KeepsLinked invoke := by
  intro patterns fields stack h
  cases hcall : callStatement? patterns fields.body with
  | none =>
    rw [invoke_of_none hcall]
    exact h
  | some call =>
    rw [invoke_of_some hcall]
    exact h.push (by simp)

theorem keepsLinked_methodReturn : KeepsLinked methodReturn := by
  intro patterns fields stack h
  obtain ⟨_ | ⟨call, frames⟩, root⟩ := stack
  · rw [methodReturn_empty]
    exact h
  · rw [methodReturn_push]
    exact h.pop

end Handler

/-- The handlers that there are keep the chain of open calls. -/
theorem keepsLinked_of_builtin {name : String} {handler : Handler}
    (h : builtinHandlers.get? name = some handler) : handler.KeepsLinked := by
  apply forall_builtin (P := fun _ handler => handler.KeepsLinked) (h := h)
  case invoke => exact Handler.keepsLinked_invoke
  case methodReturn => exact Handler.keepsLinked_methodReturn
  all_goals exact fun _ _ _ h => h

namespace TraceReader

variable {r : TraceReader}

/-- **Step lemma**: a line keeps the chain of open calls. -/
theorem linked_construction (hr : r.rules.handlers = builtinHandlers) {stack : CallStack}
    (h : stack.Linked) (line : String) : (r.construction stack line).2.Linked := by
  cases hfields : r.fieldsOn line with
  | none =>
    rw [construction, hfields]
    exact h
  | some fields =>
    rw [r.construction_of_fieldsOn hfields]
    exact keepsLinked_of_builtin (ExtractionRules.get?_handlerName hr fields.category) _ _ _ h

/-- **Run lemma**: after any lines the open calls form a chain. -/
theorem linked_after (hr : r.rules.handlers = builtinHandlers) (lines : List String) :
    (r.after lines).stack.Linked := by
  induction lines using List.reverseRecOn with
  | nil => exact CallStack.linked_empty _
  | append_singleton lines line ih =>
    rw [stack_after_concat]
    exact linked_construction hr ih line

end TraceReader

/-! ## Returns -/

/-- The attributes that a return takes over from the call that it closes. -/
def inheritedKeys : List String := ["caller", "called", "method"]

/-- What the statement of a return has from its body, and what from the call that it closes. -/
structure Statement.ClosesCall (s call captured : Statement) : Prop where
  /-- It is a return. -/
  kind : s.kind = .methodReturn
  /-- An attribute that the body gives a text has this text. -/
  own : ∀ key ∈ inheritedKeys, ∀ text, captured.value? key = some text → text ≠ "" → s.value? key = some text
  /-- One that it leaves out or empty is that of the call, if the call has it. -/
  inherited : ∀ key ∈ inheritedKeys, (captured.value? key).getD "" = "" →
    ∀ text, call.value? key = some text → s.value? key = some text
  /-- If the call does not have it, it is as the body has it. -/
  missing : ∀ key ∈ inheritedKeys, (captured.value? key).getD "" = "" →
    call.value? key = none → s.value? key = captured.value? key
  /-- Every other attribute is as the body has it. -/
  others : ∀ key ∉ inheritedKeys, s.value? key = captured.value? key
  /-- So are the parameters. -/
  params : s.params = captured.params

/-- Taking attributes over from a call makes such a statement of what the body says. -/
theorem Statement.closesCall_inherit (call : Statement) {captured : Statement}
    (hkind : captured.kind = .methodReturn) :
    (inheritedKeys.foldl (Handler.inherit call) captured).ClosesCall call captured := by
  have hvalue := Handler.value?_foldl_inherit call (show inheritedKeys.Nodup by decide) captured
  refine ⟨?_, ?_, ?_, ?_, ?_, ?_⟩
  · simp [inheritedKeys, hkind]
  · intro key hkey text htext hne
    rw [hvalue, if_neg, htext]
    simp [htext, hne]
  · intro key hkey hempty text htext
    rw [hvalue, if_pos ⟨hkey, by simp [hempty]⟩, htext, Option.some_or]
  · intro key hkey hempty hnone
    rw [hvalue, if_pos ⟨hkey, by simp [hempty]⟩, hnone, Option.none_or]
  · intro key hkey
    rw [hvalue, if_neg fun h => hkey h.1]
  · exact Handler.params_foldl_inherit _ _ _

namespace TraceReader

/-- **Returns lead back to their callers.** For every configuration and all lines, each open call names the
entity below it as its caller. A return of which the body fits closes the innermost one: of its attributes,
the caller, the entity called and the method are those of the body, or else those of the call; and if the body
names no caller, then it is the entity that executes when the call has returned. -/
theorem returns_close_calls {config : Config} {r : TraceReader} (h : ofConfig config = .ok r)
    (lines : List String) :
    let stack := (r.after lines).stack
    stack.Linked ∧
    ∀ line fields call beneath c, r.fieldsOn line = some fields →
      r.rules.handlerName fields.category = "Return" → stack.frames = call :: beneath →
      r.rules.patterns.methodReturn.captures fields.body.toList = some c →
      let captured := r.rules.patterns.captured r.rules.patterns.methodReturn .methodReturn c
      ∃ s, r.construction stack line = (some s, ⟨beneath, stack.root⟩) ∧ s.ClosesCall call captured ∧
        ((captured.value? "caller").getD "" = "" →
          s.value? "caller" = some (r.after (lines ++ [line])).stack.caller) := by
  intro stack
  have hr := handlers_of_ofConfig h
  have hlinked : stack.Linked := linked_after hr lines
  refine ⟨hlinked, ?_⟩
  intro line fields call beneath c hfields hreturn hframes hc captured
  have hconstruction : r.construction stack line =
      (some (inheritedKeys.foldl (Handler.inherit call) captured), ⟨beneath, stack.root⟩) := by
    have hstack : stack = ⟨call :: beneath, stack.root⟩ := by rw [← hframes]
    rw [r.construction_of_fieldsOn hfields, ExtractionRules.construct,
      ExtractionRules.handlerFor_of_return hr hreturn, hstack, Handler.methodReturn_push, Handler.returned,
      BodyPatterns.capture_eq_map, hc]
    rfl
  have hcloses : (inheritedKeys.foldl (Handler.inherit call) captured).ClosesCall call captured :=
    Statement.closesCall_inherit call (BodyPatterns.kind_captured _ _ _ _)
  refine ⟨_, hconstruction, hcloses, fun hempty => ?_⟩
  -- the caller that the call names is the one that executes beneath it
  rw [stack_after_concat, hconstruction]
  exact hcloses.inherited "caller" (by decide) hempty _ (hlinked [] call beneath hframes)

/-- A method calls a function. -/
def nestedCalls : List String := ["[1][A][a.c] called A::run(x=1)", "[2][A][a.c] called step()"]

/-- The function returns to the object of the method. -/
theorem nestedCalls_return : ofConfig {} = .ok defaultReader ∧
    (defaultReader.after nestedCalls).stack.Linked ∧ ∃ s,
      (defaultReader.construction (defaultReader.after nestedCalls).stack
        "[3][A][a.c] returned from step").1 = some s ∧
      s.value? "caller" = some "A" ∧ s.value? "called" = some "step" := by
  obtain ⟨hlinked, hreturns⟩ := returns_close_calls ofConfig_default nestedCalls
  have hfields : defaultReader.fieldsOn "[3][A][a.c] returned from step" =
      some ⟨"returned", "A", "from step"⟩ := by decide +kernel
  have hreturn : defaultReader.rules.handlerName "returned" = "Return" := by decide +kernel
  obtain ⟨call, beneath, hframes⟩ := List.exists_cons_of_ne_nil
    (show (defaultReader.after nestedCalls).stack.frames ≠ [] by decide +kernel)
  have hcalled : ∀ call ∈ (defaultReader.after nestedCalls).stack.frames.head?,
      call.value? "called" = some "step" := by decide +kernel
  obtain ⟨c, hc⟩ := Option.isSome_iff_exists.1
    (show (defaultReader.rules.patterns.methodReturn.captures "from step".toList).isSome = true by
      decide +kernel)
  obtain ⟨s, hs, hcloses, hcaller⟩ := hreturns _ _ call beneath c hfields hreturn hframes hc
  refine ⟨ofConfig_default, hlinked, s, by rw [hs], ?_, ?_⟩
  · -- the pattern has no group for the caller
    have hnone : "caller" ∉ defaultReader.rules.patterns.methodReturn.groupNames := by decide
    rw [hcaller (by rw [BodyPatterns.value?_captured, if_neg fun h => hnone h.1, Option.getD_none])]
    decide +kernel
  · -- the group for the object takes no part in the match
    have hempty : (defaultReader.rules.patterns.methodReturn.captures "from step".toList).bind
        (·.get? "called") = none := by decide +kernel
    rw [hc, Option.bind_some] at hempty
    refine hcloses.inherited "called" (by decide) ?_ _ (hcalled call (by rw [hframes]; rfl))
    rw [BodyPatterns.value?_captured, if_pos (by decide), Option.getD_some, hempty, Option.getD_none]

end TraceReader

end TraceDiagram
