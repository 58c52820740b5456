import TraceDiagram.Proofs.Template.SlotRendering
import TraceDiagram.Wording

/-! # The default wording

The templates of the default configuration as pieces, and the texts that they give.

* **`DefaultWording.pieces`** the template for each kind of statements; **`ofTemplates_default`** says that
  the written forms are read as the library of these.
* **`Wording.Has`** a wording has a template of slots under a name, and **`Wording.Has.renderTexts`** is what
  it gives, whatever the other templates are.
* **`Statement.slotValue`** what stands in a slot of a statement's template: an attribute, or the list of
  parameters, by **`paramsText`**.
* **`statement_of_fill`** a statement whose slots have values is worded as its template with these.
* **`remark_default`** a remark is always worded. -/

namespace TraceDiagram

open Template (Piece Separate written fill)

namespace DefaultWording

/-! ## Templates -/

/-- Running text. -/
def words (text : String) : Piece := .text text.toList

/-- The place of a variable. -/
def slot (name : String) (h : Template.isVariable name.toList = true := by decide +kernel) : Piece :=
  .slot ⟨name.toList, h⟩

/-- The template for one parameter. -/
def paramPieces : List Piece :=
  [words "\"", slot "attribute", words "\" = \"", slot "value", words "\""]

/-- The template for headings. -/
def bookmarkPieces : List Piece := [words "heading \"", slot "bookmark", words "\""]

/-- The template for remarks. -/
def remarkPieces : List Piece := [words "(* ", slot "time", words " ", slot "file", words " *)"]

/-- The templates by name, in order. -/
def templates : List (String × List Piece) := [
  ("message",
    [slot "message", slot "params", words ": ", slot "source", words " -> ", slot "destination"]),
  ("invoke",
    [slot "caller", words " invokes ", slot "called", words ".", slot "method", slot "params"]),
  ("method_return", [slot "called", words ".", slot "method", words " returns"]),
  ("create", [slot "creator", words " creates ", slot "created", slot "params"]),
  ("delete", [slot "deletor", words " deletes ", slot "deleted"]),
  ("state_change", [slot "object", words " state = \"", slot "state", words "\""]),
  ("start_timer", [slot "object", words " starts ", slot "timer"]),
  ("stop_timer", [slot "object", words " stops ", slot "timer"]),
  ("expired_timer", [words "timeout ", slot "timer"]),
  ("allocate", [slot "object", words " allocates \"", slot "resource", words "\""]),
  ("free", [slot "object", words " frees \"", slot "resource", words "\""]),
  ("begin_action", [slot "object", words " begins action \"", slot "action", words "\""]),
  ("end_action", [slot "object", words " ends action \"", slot "action", words "\""]),
  ("action", [slot "actor", words " takes action \"", slot "action", words "\""]),
  ("param", paramPieces), ("bookmark", bookmarkPieces), ("remark", remarkPieces)]

/-- The template for statements of a kind. -/
def pieces (kind : StatementKind) : List Piece := (templates.lookup kind.templateName).getD []

/-- The default templates are written with these pieces. -/
theorem toList_templates :
    ({} : Config).templates.toList = templates.map fun t => (t.1, String.ofList (written t.2)) := by
  decide +kernel

theorem separate_templates : ∀ t ∈ templates, Separate t.2 := by decide +kernel

theorem nodup_templates : (templates.map Prod.fst).Nodup := by decide

theorem lookup_pieces (kind : StatementKind) :
    templates.lookup kind.templateName = some (pieces kind) := by
  cases kind <;> rfl

theorem pieces_mem_templates (kind : StatementKind) :
    (kind.templateName, pieces kind) ∈ templates := by
  obtain ⟨before, after, heq, -⟩ := List.lookup_eq_some_iff.1 (lookup_pieces kind)
  rw [heq]
  exact List.mem_append_right _ List.mem_cons_self

/-- The default template for statements of a kind is written with its pieces. -/
theorem lookup_templateName (kind : StatementKind) :
    ({} : Config).templates.toList.lookup kind.templateName =
      some (String.ofList (written (pieces kind))) := by
  rw [toList_templates]
  cases kind <;> rfl

end DefaultWording

open DefaultWording

/-- The wording of the default configuration. -/
def defaultWording : Wording where
  library := Library.ofPieceLists templates

/-- **The default templates are read as their pieces.** -/
theorem ofTemplates_default : Wording.ofTemplates {} = .ok defaultWording := by
  have hlibrary : Library.ofList ({} : Config.Templates).toList = .ok (Library.ofPieceLists templates) := by
    change Library.ofList ({} : Config).templates.toList = _
    rw [toList_templates]
    exact Library.ofList_written separate_templates nodup_templates
  rw [Wording.ofTemplates, hlibrary]
  rfl

/-! ## Filling -/

section Filling

variable {value : String → Option String}

@[simp] theorem fill_words (text : String) : (words text).fill value = some text := by
  simp [words, Piece.fill]

@[simp] theorem fill_slot (name : String) (h : Template.isVariable name.toList = true) :
    (slot name h).fill value = value name := by
  simp [slot, Piece.fill, Template.SlotName.text]

/-- A wording has a template of slots under a name. -/
def Wording.Has (w : Wording) (name : String) (ps : List Piece) : Prop :=
  w.library.find? name = some (Template.ofPieces ps)

/-- A template of slots gives its pieces, filled with values that the variables have. -/
theorem Wording.Has.renderTexts {w : Wording} {name : String} {ps : List Piece} (hps : w.Has name ps)
    {vars : Dict String String} (hvars : ∀ key v, value key = some v → vars.get? key = some v)
    {text : String} (hfill : fill value ps = some text) : w.renderTexts name vars = .ok text := by
  refine Library.render_of_find hps ?_ hfill
  -- a variable is in the context under its own name, as no two have the same
  intro key v hv
  have hkeys : ((vars.entries.map fun p => (p.1, Json.text p.2)).map Prod.fst).Nodup := by
    rw [List.map_map]
    exact vars.keys_nodup
  refine Dict.get?_of_mem_entries ?_
  rw [Dict.entries_ofList hkeys]
  exact List.mem_map_of_mem (f := fun p : String × String => (p.1, Json.text p.2))
    (Dict.mem_entries_of_get? (hvars key v hv))

/-- The default wording has the default templates. -/
theorem has_default {name : String} {ps : List Piece} (hmem : (name, ps) ∈ templates) :
    defaultWording.Has name ps :=
  Library.find?_ofPieceLists nodup_templates hmem

end Filling

/-! ## Parameters, headings and remarks -/

/-- The text of one parameter. -/
def paramText (p : Param) : String := "\"" ++ p.name ++ "\" = \"" ++ p.value ++ "\""

/-- The text of a list of parameters. -/
def paramsText : List Param → String
  | [] => ""
  | p :: ps => "(" ++ Text.joinStrings "," ((p :: ps).map paramText) ++ ")"

/-- The text of a remark. -/
def remarkText (r : Remark) : String := "(* " ++ r.time ++ " " ++ r.file ++ " *)"

theorem remark_default (r : Remark) : defaultWording.remark r = .ok (remarkText r) := by
  have hmem : ("remark", remarkPieces) ∈ templates := by simp [templates]
  refine (has_default hmem).renderTexts (fun _ _ h => h) ?_
  have htime : (Dict.ofList [("time", r.time), ("file", r.file), ("generator", r.generator)]).get? "time" =
      some r.time := rfl
  have hfile : (Dict.ofList [("time", r.time), ("file", r.file), ("generator", r.generator)]).get? "file" =
      some r.file := rfl
  simp [remarkPieces, fill, htime, hfile, remarkText, String.append_assoc]

/-- Every heading is worded. -/
theorem bookmark_default (value : String) :
    defaultWording.bookmark value = .ok ("heading \"" ++ value ++ "\"") := by
  have hmem : ("bookmark", bookmarkPieces) ∈ templates := by simp [templates]
  refine (has_default hmem).renderTexts (fun _ _ h => h) ?_
  have hvalue : (Dict.ofList [("bookmark", value)]).get? "bookmark" = some value := rfl
  simp [bookmarkPieces, fill, hvalue, String.append_assoc]

section Params

/-! Of the templates, only the one for a parameter has a say in these. -/

variable {w : Wording} (hw : w.Has "param" paramPieces)

include hw

theorem Wording.Has.param (p : Param) : w.param p = .ok (paramText p) := by
  refine hw.renderTexts (fun _ _ h => h) ?_
  have hname : (Dict.ofList [("attribute", p.name), ("value", p.value)]).get? "attribute" = some p.name := rfl
  have hvalue : (Dict.ofList [("attribute", p.name), ("value", p.value)]).get? "value" = some p.value := rfl
  simp [paramPieces, fill, hname, hvalue, paramText, String.append_assoc]

theorem Wording.Has.paramTexts (ps : List Param) : w.paramTexts ps = .ok (ps.map paramText) := by
  induction ps with
  | nil => rfl
  | cons p ps ih =>
    rw [Wording.paramTexts, hw.param, ih]
    rfl

theorem Wording.Has.params (ps : List Param) : w.params ps = .ok (paramsText ps) := by
  rw [Wording.params, hw.paramTexts]
  cases ps <;> rfl

end Params

theorem params_default (ps : List Param) : defaultWording.params ps = .ok (paramsText ps) := by
  have hmem : ("param", paramPieces) ∈ templates := by simp [templates]
  exact (has_default hmem).params ps

/-! ## Statements -/

/-- What stands in a slot of a statement's template. -/
def Statement.slotValue (s : Statement) (key : String) : Option String :=
  if key = "params" then s.params.map paramsText else s.value? key

/-- The variables of a statement have the values of its slots. -/
theorem bindings_default (s : Statement) :
    ∃ vars, defaultWording.bindings s = .ok vars ∧
      ∀ key v, s.slotValue key = some v → vars.get? key = some v := by
  -- only a statement with parameters has a variable more than its attributes
  cases hps : s.params with
  | none =>
    refine ⟨s.attributes, by rw [Wording.bindings, hps], fun key v hv => ?_⟩
    by_cases hkey : key = "params"
    · simp [Statement.slotValue, hkey, hps] at hv
    · rwa [Statement.slotValue, if_neg hkey] at hv
  | some ps =>
    refine ⟨s.attributes.insert "params" (paramsText ps), ?_, fun key v hv => ?_⟩
    · simp only [Wording.bindings, hps, params_default]
      rfl
    · rw [Dict.get?_insert]
      by_cases hkey : key = "params"
      · rw [if_pos hkey]
        simpa [Statement.slotValue, hkey, hps] using hv
      · rw [if_neg hkey]
        rwa [Statement.slotValue, if_neg hkey] at hv

/-- **A statement whose slots have values** is worded as its template with these. -/
theorem statement_of_fill {s : Statement} {text : String}
    (h : fill s.slotValue (pieces s.kind) = some text) : defaultWording.statement s = .ok text := by
  obtain ⟨vars, hvars, hvalues⟩ := bindings_default s
  rw [Wording.statement, hvars]
  exact (has_default (pieces_mem_templates s.kind)).renderTexts hvalues h

end TraceDiagram
