import Mathlib.Data.Finset.Basic
import TraceDiagram.Proofs.Compiling
import TraceDiagram.Proofs.OpenCalls

/-! # Lines that say nothing

A log holds lines that are none of a trace's business. Whether they are read or left out makes no
difference to what is read from the others.

* **`TraceReader.Silent`** a line gives no statement, and does not return from an open call.
* **`TraceReader.silent_step`** reading a silent line changes nothing but the count of lines.
* **`without`** some lines with those at given places left out.
* **`TraceReader.agree_without`** the run lemma: two runs, one of which leaves silent lines out, end with the
  same trace and the same open calls. **`after_without_silent`** carries that on to documents. -/

namespace TraceDiagram

/-! ## Leaving lines out -/

/-- The lines that do not stand at the given places. -/
def without (places : Finset ℕ) (lines : List String) : List String :=
  (lines.zipIdx.filter fun p => p.2 ∉ places).map Prod.fst

/-- Whether the last line is left out is decided by its place. -/
theorem without_concat (places : Finset ℕ) (lines : List String) (line : String) :
    without places (lines ++ [line]) =
      without places lines ++ if lines.length ∈ places then [] else [line] := by
  rw [without, List.zipIdx_append, List.filter_append, List.map_append, ← without]
  by_cases h : lines.length ∈ places <;> simp [h]

/-- The lines of a text. -/
def linesOf (text : String) : List String := (Text.lines text.toList).map String.ofList

namespace TraceReader

variable (r : TraceReader)

/-! ## Silent lines -/

/-- A line that is read in a state is silent: it gives no statement, and it is no return while a call is
open. -/
def Silent (state : TraceState) (line : String) : Prop :=
  r.completed state.stack line = none ∧ ¬(r.bracketOf line = .closing ∧ state.stack.frames ≠ [])

/-- The line at a place is silent when it is its turn. -/
def SilentAt (lines : List String) (place : ℕ) : Prop :=
  ∀ line, lines[place]? = some line → r.Silent (r.after (lines.take place)) line

/-- Two states agree if the same has been read and the same calls are open. -/
def Agree (state other : TraceState) : Prop :=
  state.parsed = other.parsed ∧ state.stack = other.stack

variable {r}

/-- A call whose body fits gives a statement. -/
theorem completed_ne_none_of_opening (hr : r.rules.handlers = builtinHandlers) {line : String}
    (h : r.bracketOf line = .opening) (stack : CallStack) : r.completed stack line ≠ none := by
  obtain ⟨call, hcall⟩ := construction_of_opening hr stack h
  rw [completed]
  cases hg : r.groupsOn line with
  | none => simp [construction, fieldsOn, hg] at hcall
  | some groups =>
    have hconstruct : r.rules.construct (fieldsOf groups) stack = (some call, stack.push call) := by
      rw [← hcall, construction, fieldsOn, hg, Option.map_some]
    simp [hconstruct]

/-- A silent line leaves the open calls alone: it is no call that fits, and a return only while no call is
open. -/
theorem construction_of_silent (hr : r.rules.handlers = builtinHandlers) {state : TraceState}
    {line : String} (h : r.Silent state line) : (r.construction state.stack line).2 = state.stack := by
  obtain ⟨hnone, hreturn⟩ := h
  cases hb : r.bracketOf line with
  | neutral => exact construction_of_neutral hr _ hb
  | opening => exact absurd hnone (completed_ne_none_of_opening hr hb _)
  | closing =>
    have hempty : state.stack.frames = [] := by simpa [hb] using hreturn
    have hstack : state.stack = ⟨[], state.stack.root⟩ := by rw [← hempty]
    obtain ⟨fields, -, hclose⟩ := construction_of_closing hr state.stack hb
    rw [hclose, hstack, Handler.methodReturn_empty]

/-- **Step lemma**: reading a silent line leaves what has been read and the open calls as they are. -/
theorem silent_step (hr : r.rules.handlers = builtinHandlers) {state : TraceState} {line : String}
    (h : r.Silent state line) : Agree (r.step state line).1 state := by
  rw [step_fst, h.1]
  exact ⟨rfl, construction_of_silent hr h⟩

/-- **Step lemma**: states that agree do so after one line more. -/
theorem Agree.step {state other : TraceState} (h : Agree state other) (line : String) :
    Agree (r.step state line).1 (r.step other line).1 := by
  rw [step_fst, step_fst, h.1, h.2]
  exact ⟨rfl, rfl⟩

theorem Agree.trans {state other third : TraceState} (h : Agree state other) (h' : Agree other third) :
    Agree state third := ⟨h.1.trans h'.1, h.2.trans h'.2⟩

theorem Agree.symm {state other : TraceState} (h : Agree state other) : Agree other state :=
  ⟨h.1.symm, h.2.symm⟩

/-! ## Two runs -/

/-- What is silent when it is its turn does not depend on the lines that follow. -/
theorem SilentAt.of_concat {lines : List String} {line : String} {place : ℕ}
    (h : r.SilentAt (lines ++ [line]) place) : r.SilentAt lines place := by
  intro l hl
  have hlt : place < lines.length := (List.getElem?_eq_some_iff.1 hl).1
  have hsilent := h l (by rw [List.getElem?_append_left hlt, hl])
  rwa [List.take_append_of_le_length (Nat.le_of_lt hlt)] at hsilent

/-- The last line is silent in the state after the others. -/
theorem SilentAt.last {lines : List String} {line : String}
    (h : r.SilentAt (lines ++ [line]) lines.length) : r.Silent (r.after lines) line := by
  have hsilent := h line (by simp)
  rwa [List.take_left] at hsilent

/-- **Run lemma**: leaving silent lines out leads to a state that agrees. -/
theorem agree_without (hr : r.rules.handlers = builtinHandlers) {places : Finset ℕ}
    {lines : List String} (h : ∀ place ∈ places, r.SilentAt lines place) :
    Agree (r.after (without places lines)) (r.after lines) := by
  induction lines using List.reverseRecOn with
  | nil => exact ⟨rfl, rfl⟩
  | append_singleton lines line ih =>
    have hagree := ih fun place hplace => (h place hplace).of_concat
    rw [without_concat, r.after_concat lines]
    by_cases hlast : lines.length ∈ places
    · -- one run reads nothing here, the other a silent line
      rw [if_pos hlast, List.append_nil]
      exact hagree.trans (silent_step hr (h _ hlast).last).symm
    · rw [if_neg hlast, after_concat]
      exact hagree.step line

end TraceReader

/-! ## Documents -/

/-- A document depends on what has been read alone. -/
theorem compile_congr {config : Config} {r : TraceReader} (h : TraceReader.ofConfig config = .ok r)
    {trace other : String} (hparsed : (r.read trace).1.parsed = (r.read other).1.parsed) :
    (compile config trace).1 = (compile config other).1 := by
  rw [compile_fst, compile_fst]
  cases hc : Compiler.ofConfig config with
  | error e => simp only [Except.bind]
  | ok c =>
    have hreader : c.reader = .ok r := by
      rw [c.reader_eq_ok_iff, Compiler.config_of_ofConfig hc, h]
    simp only [Except.bind, hreader, hparsed]

/-- **Silent lines may be left out.** For every configuration, all lines and any of their silent lines, the
other lines alone give the same statements, the same cast with the same lifetimes and the same open calls;
and a trace of which the silent lines are left out has the same document as the whole one, or fails in the
same way. -/
theorem after_without_silent {config : Config} {r : TraceReader}
    (h : TraceReader.ofConfig config = .ok r) {lines : List String} {places : Finset ℕ}
    (hsilent : ∀ place ∈ places, r.SilentAt lines place) :
    (r.after (without places lines)).parsed = (r.after lines).parsed ∧
    (r.after (without places lines)).stack = (r.after lines).stack ∧
    ∀ trace quieter, linesOf trace = lines → linesOf quieter = without places lines →
      (compile config quieter).1 = (compile config trace).1 := by
  have hagree := TraceReader.agree_without (TraceReader.handlers_of_ofConfig h) hsilent
  refine ⟨hagree.1, hagree.2, fun trace quieter htrace hquieter => compile_congr h ?_⟩
  have hread : ∀ text, (r.read text).1 = r.after (linesOf text) := fun _ => rfl
  rw [hread, hread, htrace, hquieter, hagree.1]

/-- A log in which only the call and the state say something: one line is no line of a trace, the body of
one call does not fit, and the first return comes before any call. -/
def noisyLog : List String := ["starting up", "[1][A][a.c] called nothing", "[2][A][a.c] returned from x",
  "[3][A][a.c] called A::run(x=1)", "[4][A][a.c] state ready"]

/-- The silent lines of the log are left out of it and of its text. -/
theorem noisyLog_without_silent : TraceReader.ofConfig {} = .ok defaultReader ∧
    (∀ place ∈ ({0, 1, 2} : Finset ℕ), defaultReader.SilentAt noisyLog place) ∧
    (defaultReader.after (without {0, 1, 2} noisyLog)).parsed = (defaultReader.after noisyLog).parsed ∧
    (defaultReader.after (without {0, 1, 2} noisyLog)).stack = (defaultReader.after noisyLog).stack ∧
    (compile {} "[3][A][a.c] called A::run(x=1)\n[4][A][a.c] state ready").1 =
      (compile {} ("starting up\n[1][A][a.c] called nothing\n[2][A][a.c] returned from x\n" ++
        "[3][A][a.c] called A::run(x=1)\n[4][A][a.c] state ready\n")).1 := by
  have hsilent : ∀ place ∈ ({0, 1, 2} : Finset ℕ), defaultReader.SilentAt noisyLog place := by
    intro place hplace line hline
    simp only [Finset.mem_insert, Finset.mem_singleton] at hplace
    rcases hplace with rfl | rfl | rfl
    all_goals
      obtain rfl := Option.some.inj hline
      exact ⟨by decide +kernel, by decide +kernel⟩
  obtain ⟨hparsed, hstack, hcompile⟩ := after_without_silent ofConfig_default hsilent
  exact ⟨ofConfig_default, hsilent, hparsed, hstack,
    hcompile _ _ (by decide +kernel) (by decide +kernel)⟩

end TraceDiagram
