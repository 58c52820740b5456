import Mathlib.Data.List.Induction
import TraceDiagram.Trace

/-! # Steps and runs of a reader

Everything a line can do to the state of a `TraceReader`, said once.

* **`ParsedTrace.storeAny`** adds a statement, if there is one, after the others.
* **`TraceReader.construction`** what the handler of a line makes of it, before the line's own attributes
  are filled in, and the calls that are open then.
* **`TraceReader.completed`** the statement that a line adds to the trace.
* **`step_fst`** a step in these terms; **`after`** the state after some lines, with **`after_concat`** for
  one line more.
* **`parsed_induction`** for what each stored statement keeps, and **`statements_induction`** for what holds
  of each statement. -/

namespace TraceDiagram

namespace ParsedTrace

/-- A trace with a statement added, if there is one. -/
def storeAny (t : ParsedTrace) (parents : Dict String String) : Option Statement → ParsedTrace
  | none => t
  | some s => t.store parents s

/-- Taking note of references leaves the statements alone. -/
theorem statements_foldl_refer (t : ParsedTrace) (parents : Dict String String)
    (refs : List (String × Lifetime)) :
    (refs.foldl (refer · parents) t).statements = t.statements := by
  induction refs generalizing t with
  | nil => rfl
  | cons ref refs ih => exact ih (t.refer parents ref)

/-- Storing a statement puts it after the others. -/
theorem statements_store (t : ParsedTrace) (parents : Dict String String) (s : Statement) :
    (t.store parents s).statements = t.statements ++ [s] := by
  rw [store, statements_foldl_refer]

theorem statements_storeAny (t : ParsedTrace) (parents : Dict String String) (s : Option Statement) :
    (t.storeAny parents s).statements = t.statements ++ s.toList := by
  cases s with
  | none => exact (List.append_nil _).symm
  | some s => exact statements_store t parents s

end ParsedTrace

namespace TraceReader

/-- A configuration has a reader if its line pattern can be used and its rules can be read. -/
theorem ofConfig_eq_ok_iff (config : Config) (r : TraceReader) :
    ofConfig config = .ok r ↔ ∃ p rules, linePatternOf config = .ok p ∧
      ExtractionRules.ofConfig config = .ok rules ∧ withRules p rules config = r := by
  rw [ofConfig]
  cases linePatternOf config with
  | error e => simp [bind, Except.bind]
  | ok p => cases ExtractionRules.ofConfig config <;> simp [bind, Except.bind, pure, Except.pure]

variable (r : TraceReader)

/-- The groups of the line pattern on a line, if it matches. -/
def groupsOn (line : String) : Option Captures := r.linePattern.captures line.toList

/-- The fields of a line, if the line pattern matches it. -/
def fieldsOn (line : String) : Option LineFields := (r.groupsOn line).map fieldsOf

/-- What the handler of a line makes of it, and the calls that are open then. -/
def construction (stack : CallStack) (line : String) : Option Statement × CallStack :=
  match r.fieldsOn line with
  | none => (none, stack)
  | some fields => r.rules.construct fields stack

/-- The construction on a line with the given fields is that of the rules. -/
theorem construction_of_fieldsOn {line : String} {fields : LineFields}
    (h : r.fieldsOn line = some fields) (stack : CallStack) :
    r.construction stack line = r.rules.construct fields stack := by
  rw [construction, h]

/-- The statement that a line adds to the trace: the handler's, completed with what is known about the
line. -/
def completed (stack : CallStack) (line : String) : Option Statement :=
  (r.groupsOn line).bind fun c =>
    (r.rules.construct (fieldsOf c) stack).1.map (complete (fieldsOf c) (remarkOf c))

/-- The state after some lines. -/
def after (lines : List String) : TraceState := (r.run r.start lines).1

/-- **What a step does**: it stores the completed statement, if there is one, takes over the calls that the
handler leaves open, and counts the line. -/
theorem step_fst (state : TraceState) (line : String) :
    (r.step state line).1 =
      { parsed := state.parsed.storeAny r.parents (r.completed state.stack line)
        stack := (r.construction state.stack line).2
        linesSeen := state.linesSeen + 1 } := by
  simp only [step, construction, completed, fieldsOn, groupsOn]
  cases r.linePattern.captures line.toList with
  | none => rfl
  | some c =>
    simp only [stepMatched, Option.map_some, Option.bind_some]
    -- the handler's answer decides between the two remaining outcomes
    rcases r.rules.construct (fieldsOf c) state.stack with ⟨_ | s, stack⟩ <;> rfl

/-- A completed statement comes from a statement of the handler, with the fields of the line. -/
theorem completed_eq_some {stack : CallStack} {line : String} {s : Statement}
    (h : r.completed stack line = some s) :
    ∃ fields remark built, r.fieldsOn line = some fields ∧
      (r.construction stack line).1 = some built ∧ s = complete fields remark built := by
  simp only [completed, Option.bind_eq_some_iff, Option.map_eq_some_iff] at h
  obtain ⟨c, hc, built, hbuilt, hs⟩ := h
  have hfields : r.fieldsOn line = some (fieldsOf c) := by rw [fieldsOn, hc, Option.map_some]
  refine ⟨fieldsOf c, remarkOf c, built, hfields, ?_, hs.symm⟩
  rw [construction, hfields]
  exact hbuilt

/-- A run takes the step of the first line and goes on from there. -/
theorem run_cons_fst (state : TraceState) (line : String) (rest : List String) :
    (r.run state (line :: rest)).1 = (r.run (r.step state line).1 rest).1 := rfl

/-- A run over two lists of lines is a run over the first, then one over the second. -/
theorem run_append_fst (state : TraceState) (before rest : List String) :
    (r.run state (before ++ rest)).1 = (r.run (r.run state before).1 rest).1 := by
  induction before generalizing state with
  | nil => rfl
  | cons line before ih => exact ih (r.step state line).1

@[simp] theorem after_nil : r.after [] = r.start := rfl

/-- After one line more, the state is one step further. -/
theorem after_concat (lines : List String) (line : String) :
    r.after (lines ++ [line]) = (r.step (r.after lines) line).1 := by
  rw [after, run_append_fst]
  rfl

theorem parsed_after_concat (lines : List String) (line : String) :
    (r.after (lines ++ [line])).parsed =
      (r.after lines).parsed.storeAny r.parents (r.completed (r.after lines).stack line) := by
  rw [after_concat, step_fst]

/-- **What holds of every trace that is read**: it holds of the empty one, and storing a statement keeps it. -/
theorem parsed_induction {P : ParsedTrace → Prop} (empty : P {})
    (store : ∀ t s, P t → P (t.store r.parents s)) (lines : List String) : P (r.after lines).parsed := by
  induction lines using List.reverseRecOn with
  | nil => exact empty
  | append_singleton lines line ih =>
    rw [parsed_after_concat]
    -- a line without a statement leaves the trace as it is
    cases r.completed (r.after lines).stack line with
    | none => exact ih
    | some s => exact store _ s ih

theorem stack_after_concat (lines : List String) (line : String) :
    (r.after (lines ++ [line])).stack = (r.construction (r.after lines).stack line).2 := by
  rw [after_concat, step_fst]

/-- **What holds of every statement that is read from given lines**: it holds of what one such line adds, as
long as the open calls are as they should be, and the line leaves them so. -/
theorem statements_induction {L : String → Prop} {K : CallStack → Prop} {P : Statement → Prop}
    (start : K r.start.stack)
    (line : ∀ {stack line}, K stack → L line →
      (∀ s, r.completed stack line = some s → P s) ∧ K (r.construction stack line).2)
    {lines : List String} (hlines : ∀ line ∈ lines, L line) :
    K (r.after lines).stack ∧ ∀ s ∈ (r.after lines).parsed.statements, P s := by
  induction lines using List.reverseRecOn with
  | nil => exact ⟨start, List.forall_mem_nil _⟩
  | append_singleton lines last ih =>
    obtain ⟨hbefore, hlast⟩ := List.forall_mem_append.1 hlines
    obtain ⟨hstack, hstatements⟩ := ih hbefore
    obtain ⟨hadded, hopen⟩ := line hstack (hlast last List.mem_cons_self)
    rw [stack_after_concat, parsed_after_concat, ParsedTrace.statements_storeAny]
    refine ⟨hopen, List.forall_mem_append.2 ⟨hstatements, fun s hs => ?_⟩⟩
    exact hadded s (Option.mem_toList.1 hs)

end TraceReader

end TraceDiagram
