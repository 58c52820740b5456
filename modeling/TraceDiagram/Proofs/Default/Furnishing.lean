import TraceDiagram.Proofs.Default.Patterns
import TraceDiagram.Proofs.Default.Wording
import TraceDiagram.Proofs.Extraction
import TraceDiagram.Proofs.Reading

/-! # What default templates ask of statements

Under the default configuration every statement has what its template asks for, whichever way it was made.

* **`slotKeys`** what the template for a kind asks for; **`Statement.Furnished`** a statement that has it
  all.
* **`furnishes_of_builtin`** each of the handlers that there are makes such statements with the default
  patterns, in all of its branches.
* **`furnished_after`** all statements of a trace are such. -/

namespace TraceDiagram

open Template (Piece)
open DefaultWording

/-! ## Slots and their values -/

/-- The variable of a piece, if it is a slot. -/
def slotKey? : Piece → Option String
  | .text _ => none
  | .slot n => some n.text

/-- What the template for statements of a kind asks for. -/
def slotKeys (kind : StatementKind) : List String := (pieces kind).filterMap slotKey?

namespace Statement

/-- There is something to put into the slot of the given name. -/
def Has (s : Statement) (key : String) : Prop := ∃ v, s.slotValue key = some v

/-- A statement that has all that its template asks for. -/
def Furnished (s : Statement) : Prop := ∀ key ∈ slotKeys s.kind, s.Has key

/-- The text of a furnished statement can be filled in. -/
theorem Furnished.exists_fill {s : Statement} (h : s.Furnished) :
    ∃ text, Template.fill s.slotValue (pieces s.kind) = some text := by
  refine Template.exists_fill fun n hn => h n.text ?_
  exact List.mem_filterMap.2 ⟨Piece.slot n, hn, rfl⟩

variable {s : Statement} {key : String}

/-- The list of parameters is no attribute. -/
theorem slotValue_setAttribute (s : Statement) (name value key : String) :
    (s.setAttribute name value).slotValue key =
      if key = "params" then s.slotValue key
      else if key = name then some value else s.slotValue key := by
  by_cases hparams : key = "params"
  · rw [if_pos hparams, slotValue, slotValue, if_pos hparams, if_pos hparams, params_setAttribute]
  · rw [if_neg hparams, slotValue, slotValue, if_neg hparams, if_neg hparams, value?_setAttribute]

/-- Setting an attribute takes nothing away. -/
theorem Has.setAttribute (h : s.Has key) (name value : String) : (s.setAttribute name value).Has key := by
  rw [Has, slotValue_setAttribute]
  split_ifs
  · exact h
  · exact ⟨value, rfl⟩
  · exact h

/-- An attribute that is set is there. -/
theorem has_setAttribute (s : Statement) {name : String} (hname : name ≠ "params") (value : String) :
    (s.setAttribute name value).Has name := by
  rw [Has, slotValue_setAttribute, if_neg hname, if_pos rfl]
  exact ⟨value, rfl⟩

/-- Setting an attribute that is missing takes nothing away. -/
theorem Has.setDefault (h : s.Has key) (name value : String) : (s.setDefault name value).Has key := by
  by_cases hparams : key = "params"
  · subst hparams
    exact h
  · rw [Has, slotValue, if_neg hparams, value?_setDefault]
    rw [Has, slotValue, if_neg hparams] at h
    split_ifs
    · exact ⟨_, rfl⟩
    · exact h

/-- Taking an attribute over from a call takes nothing away. -/
theorem Has.inherit (h : s.Has key) (call : Statement) (name : String) :
    (Handler.inherit call s name).Has key := by
  rw [Handler.inherit]
  split_ifs
  · cases call.value? name with
    | none => exact h
    | some value => exact h.setAttribute name value
  · exact h

/-- Taking a function for its own entity takes nothing away. -/
theorem Has.ownEntity (h : s.Has key) : (Handler.ownEntity s).Has key := by
  unfold Handler.ownEntity
  split
  · exact h.setAttribute _ _
  · exact h

/-- Completing a statement takes nothing away. -/
theorem Furnished.complete (h : s.Furnished) (fields : LineFields) (remark : Remark) :
    (TraceReader.complete fields remark s).Furnished := by
  intro key hkey
  have htime := (h key hkey).setDefault "time" remark.time
  have hfile := htime.setDefault "file" remark.file
  have hgenerator := hfile.setDefault "generator" fields.generator
  -- the remark is no attribute, so it takes nothing away either
  exact hgenerator.setDefault "category" fields.category

end Statement

/-- A captured statement has what the pattern has a group for, whether or not the group took part in the
match. -/
theorem BodyPatterns.has_captured (patterns : BodyPatterns) (p : Pattern) (kind : StatementKind)
    (c : Captures) {key : String} (hkey : key ∈ p.groupNames) :
    (patterns.captured p kind c).Has key := by
  by_cases hparams : key = "params"
  · subst hparams
    rw [Statement.Has, Statement.slotValue, if_pos rfl, params_captured, if_pos hkey]
    exact ⟨_, rfl⟩
  · rw [Statement.Has, Statement.slotValue, if_neg hparams, value?_captured, if_pos ⟨hkey, hparams⟩]
    exact ⟨_, rfl⟩

/-! ## Handlers -/

namespace Handler

/-- With the default patterns, the handler makes statements that have all that their templates ask for. -/
def Furnishes (handler : Handler) : Prop :=
  ∀ fields stack s, (handler defaultBodyPatterns fields stack).1 = some s → s.Furnished

theorem furnishes_byGenerator {kind : StatementKind} {pattern : BodyPatterns → Pattern} {name : String}
    (hname : name ≠ "params")
    (hkeys : ∀ key ∈ slotKeys kind, key = name ∨ key ∈ (pattern defaultBodyPatterns).groupNames) :
    Furnishes (byGenerator kind pattern name) := by
  intro fields stack s hs key hkey
  obtain ⟨c, -, rfl⟩ := eq_of_byGenerator hs
  rw [Statement.kind_setAttribute, BodyPatterns.kind_captured] at hkey
  rcases hkeys key hkey with rfl | hgroup
  · exact Statement.has_setAttribute _ hname _
  · exact (BodyPatterns.has_captured _ _ _ _ hgroup).setAttribute _ _

/-- A function that is its own entity says what is called, if it has a name. -/
theorem has_called_ownEntity {s : Statement} (h : s.Has "method") : (ownEntity s).Has "called" := by
  obtain ⟨method, hmethod⟩ := h
  have hvalue : s.value? "method" = some method := hmethod
  rw [ownEntity, hvalue]
  exact Statement.has_setAttribute _ (by decide) _

/-- A call says what is called in both of its forms. -/
theorem has_of_callStatement? {body : String} {s : Statement}
    (h : callStatement? defaultBodyPatterns body = some s) {key : String}
    (hkey : key ∈ ["called", "method", "params"]) : s.Has key := by
  obtain ⟨-, c, -, rfl⟩ | ⟨-, c, -, rfl⟩ := eq_of_callStatement? h
  · have hgroups : ∀ key ∈ ["called", "method", "params"],
        key ∈ defaultBodyPatterns.methodInvoke.groupNames := by decide
    exact BodyPatterns.has_captured _ _ _ _ (hgroups key hkey)
  · have hgroups : ∀ key ∈ ["method", "params"],
        key ∈ defaultBodyPatterns.functionInvoke.groupNames := by decide
    have hcaptured : ∀ key ∈ ["method", "params"], (defaultBodyPatterns.captured
        defaultBodyPatterns.functionInvoke .invoke c).Has key := fun key hkey =>
      BodyPatterns.has_captured _ _ _ _ (hgroups key hkey)
    -- the pattern has no group for the object, and the name of the function stands for it
    rcases List.mem_cons.1 hkey with rfl | hkey
    · exact has_called_ownEntity (hcaptured "method" List.mem_cons_self)
    · exact (hcaptured key hkey).ownEntity

theorem furnishes_invoke : Furnishes invoke := by
  intro fields stack s hs key hkey
  obtain ⟨call, hcall, rfl⟩ := eq_of_invoke hs
  rw [Statement.kind_setAttribute, kind_callStatement? hcall] at hkey
  have hkeys : ∀ key ∈ slotKeys .invoke, key = "caller" ∨ key ∈ ["called", "method", "params"] := by
    decide +kernel
  rcases hkeys key hkey with rfl | hmem
  · exact Statement.has_setAttribute _ (by decide) _
  · exact (has_of_callStatement? hcall hmem).setAttribute _ _

theorem furnishes_methodReturn : Furnishes methodReturn := by
  intro fields stack s hs key hkey
  obtain ⟨call, c, -, -, rfl⟩ := eq_of_methodReturn hs
  simp only [List.foldl_cons, List.foldl_nil, kind_inherit, BodyPatterns.kind_captured] at hkey ⊢
  have hgroups : ∀ key ∈ slotKeys .methodReturn,
      key ∈ defaultBodyPatterns.methodReturn.groupNames := by decide +kernel
  -- the groups are there even where the call has nothing to hand on
  have hcaptured := defaultBodyPatterns.has_captured _ .methodReturn c (hgroups key hkey)
  exact ((hcaptured.inherit call "caller").inherit call "called").inherit call "method"

theorem furnishes_timer {kind : StatementKind}
    (hkeys : ∀ key ∈ slotKeys kind, key = "object" ∨ key = "timer") : Furnishes (timer kind) := by
  intro fields stack s hs key hkey
  obtain ⟨c, -, rfl⟩ := eq_of_timer hs
  rcases hkeys key hkey with rfl | rfl
  · exact (Statement.has_setAttribute _ (by decide) _).setAttribute _ _
  · exact Statement.has_setAttribute _ (by decide) _

theorem furnishes_ofObject {kind : StatementKind} {name : String} (hname : name ≠ "params")
    (hkeys : ∀ key ∈ slotKeys kind, key = "object" ∨ key = name) : Furnishes (ofObject kind name) := by
  intro fields stack s hs key hkey
  obtain rfl := eq_of_ofObject hs
  rcases hkeys key hkey with rfl | rfl
  · exact (Statement.has_setAttribute _ (by decide) _).setAttribute _ _
  · exact Statement.has_setAttribute _ hname _

theorem furnishes_genericAction : Furnishes genericAction := by
  intro fields stack s hs key hkey
  obtain rfl := eq_of_genericAction hs
  have hkeys : ∀ key ∈ slotKeys .genericAction, key = "actor" ∨ key = "action" := by decide +kernel
  rcases hkeys key hkey with rfl | rfl
  · exact ((Statement.has_setAttribute _ (by decide) _).setAttribute _ _).setAttribute _ _
  · exact Statement.has_setAttribute _ (by decide) _

end Handler

/-- With the default patterns, the handlers that there are make statements that have all that their
templates ask for. -/
theorem furnishes_of_builtin {name : String} {handler : Handler}
    (h : builtinHandlers.get? name = some handler) : handler.Furnishes := by
  apply forall_builtin (P := fun _ handler => handler.Furnishes) (h := h)
  case invoke => exact Handler.furnishes_invoke
  case methodReturn => exact Handler.furnishes_methodReturn
  case genericAction => exact Handler.furnishes_genericAction
  case messageReceive | messageSend | create | delete =>
    exact Handler.furnishes_byGenerator (by decide) (by decide +kernel)
  case startTimer | stopTimer | expiredTimer => exact Handler.furnishes_timer (by decide +kernel)
  all_goals exact Handler.furnishes_ofObject (by decide) (by decide +kernel)

/-! ## Traces -/

namespace TraceReader

/-- **Step lemma**: what a line adds to a trace is furnished and has a remark. -/
theorem furnished_completed {stack : CallStack} {line : String} {s : Statement}
    (h : defaultReader.completed stack line = some s) : s.Furnished ∧ ∃ remark, s.remark = some remark := by
  obtain ⟨fields, remark, built, hfields, hbuilt, rfl⟩ := defaultReader.completed_eq_some h
  rw [defaultReader.construction_of_fieldsOn hfields] at hbuilt
  have hget := ExtractionRules.get?_handlerName (r := defaultRules) rfl fields.category
  have hfurnished : built.Furnished := furnishes_of_builtin hget fields stack built hbuilt
  exact ⟨hfurnished.complete fields remark, remark, rfl⟩

/-- **Run lemma**: all statements of a trace are furnished and have remarks. -/
theorem furnished_after (lines : List String) : ∀ s ∈ (defaultReader.after lines).parsed.statements,
    s.Furnished ∧ ∃ remark, s.remark = some remark := by
  -- neither the lines nor the open calls matter
  refine (defaultReader.statements_induction (L := fun _ => True) (K := fun _ => True) trivial ?_
    fun _ _ => trivial).2
  exact fun _ _ => ⟨fun _ => furnished_completed, trivial⟩

end TraceReader

end TraceDiagram
