import TraceDiagram.Proofs.Default.Document
import TraceDiagram.Proofs.Groups
import TraceDiagram.Proofs.Unbroken

/-! # Rows of default documents

Whatever a trace says, it does not break the layout of its document under the default configuration.

* **`HasRows`** a text that consists of rows, each ended by a newline; **`HasRows.count`** and
  **`HasRows.split`** say that the newlines of the text end its rows and nothing else.
* **`oneLine_fill`** a default template filled with values on one line goes on one line.
* **`hasRows_header`** and **`exists_rows_of_blocks`** the rows of the parts of a document.
* **`rows_default`** the rows of the whole. -/

namespace TraceDiagram

open Template (Piece fill)
open DefaultWording

/-! ## Rows -/

/-- The text of some rows, each ended by a newline. -/
def ofRows (rows : List String) : String := String.join (rows.map (· ++ "\n"))

theorem toList_ofRows_cons (row : String) (rows : List String) :
    (ofRows (row :: rows)).toList = row.toList ++ '\n' :: (ofRows rows).toList := by
  simp [ofRows]

/-- The text consists of these rows, each on one line and ended by a newline. -/
structure HasRows (text : String) (rows : List String) : Prop where
  /-- The text is put together from them. -/
  text_eq : text = ofRows rows
  /-- They go on one line each. -/
  oneLine : ∀ row ∈ rows, OneLine row

namespace HasRows

variable {text more row : String} {rows others : List String}

theorem nil : HasRows "" [] := ⟨rfl, List.forall_mem_nil _⟩

theorem append (h : HasRows text rows) (h' : HasRows more others) :
    HasRows (text ++ more) (rows ++ others) := by
  refine ⟨?_, List.forall_mem_append.2 ⟨h.oneLine, h'.oneLine⟩⟩
  rw [h.text_eq, h'.text_eq, ofRows, ofRows, ofRows, List.map_append, String.join_append]

/-- A row in front of others. -/
theorem cons (hrow : OneLine row) (h : HasRows text rows) :
    HasRows (row ++ "\n" ++ text) (row :: rows) := by
  refine ⟨?_, List.forall_mem_cons.2 ⟨hrow, h.oneLine⟩⟩
  rw [h.text_eq, ofRows, ofRows, List.map_cons, String.join_cons]

theorem single (hrow : OneLine row) : HasRows (row ++ "\n") [row] := by
  have h := nil.cons hrow
  rwa [String.append_empty] at h

/-- Texts of one row each. -/
theorem join_map {α : Type} {f : α → String} {items : List α} (h : ∀ a ∈ items, OneLine (f a)) :
    HasRows (String.join (items.map fun a => f a ++ "\n")) (items.map f) := by
  refine ⟨by rw [ofRows, List.map_map]; rfl, fun row hrow => ?_⟩
  obtain ⟨a, ha, rfl⟩ := List.mem_map.1 hrow
  exact h a ha

/-- There are as many newlines as rows. -/
theorem count (h : HasRows text rows) : text.toList.count '\n' = rows.length := by
  obtain ⟨rfl, hrows⟩ := h
  induction rows with
  | nil => rfl
  | cons row rows ih =>
    obtain ⟨hrow, hrows⟩ := List.forall_mem_cons.1 hrows
    rw [toList_ofRows_cons, List.count_append, List.count_cons_self, List.count_eq_zero.2 hrow, ih hrows,
      Nat.zero_add, List.length_cons]

/-- Cutting at the newlines gives the rows, and nothing behind the last one. -/
theorem split (h : HasRows text rows) :
    Text.split ['\n'] text.toList = (rows ++ [""]).map String.toList := by
  obtain ⟨rfl, hrows⟩ := h
  induction rows with
  | nil => rfl
  | cons row rows ih =>
    obtain ⟨hrow, hrows⟩ := List.forall_mem_cons.1 hrows
    rw [toList_ofRows_cons, Text.split_append hrow, ih hrows, List.cons_append, List.map_cons]

end HasRows

/-! ## Filled templates -/

/-- The running text of a piece; a slot has none. -/
def runningText : Piece → List Char
  | .text chars => chars
  | .slot _ => []

/-- No default template has a newline in its running text. -/
theorem newline_not_mem_templates : ∀ t ∈ templates, ∀ p ∈ t.2, '\n' ∉ runningText p := by
  decide +kernel

/-- Pieces filled with texts on one line go on one line, if their running texts do. -/
theorem oneLine_fill {value : String → Option String} (hvalue : ∀ key v, value key = some v → OneLine v)
    {ps : List Piece} (hps : ∀ p ∈ ps, '\n' ∉ runningText p) {text : String}
    (h : fill value ps = some text) : OneLine text := by
  induction ps generalizing text with
  | nil => exact Option.some.inj h ▸ oneLine_empty
  | cons p ps ih =>
    obtain ⟨hp, hps⟩ := List.forall_mem_cons.1 hps
    rw [fill, Option.bind_eq_some_iff] at h
    obtain ⟨front, hfront, h⟩ := h
    obtain ⟨back, hback, rfl⟩ := Option.map_eq_some_iff.1 h
    refine (oneLine_append _ _).2 ⟨?_, ih hps hback⟩
    cases p with
    | text chars =>
      rw [← Option.some.inj hfront, OneLine, String.toList_ofList]
      exact hp
    | slot n => exact hvalue n.text front hfront

/-- A list of parameters is worded on one line. -/
theorem oneLine_paramsText {ps : List Param} (h : ∀ p ∈ ps, OneLine p.name ∧ OneLine p.value) :
    OneLine (paramsText ps) := by
  have htexts : ∀ text ∈ ps.map paramText, OneLine text := by
    intro text htext
    obtain ⟨p, hp, rfl⟩ := List.mem_map.1 htext
    obtain ⟨hname, hvalue⟩ := h p hp
    simp only [paramText, oneLine_append, hname, hvalue, and_true]
    decide
  cases ps with
  | nil => exact oneLine_empty
  | cons p ps =>
    have hjoined : OneLine (Text.joinStrings "," ((p :: ps).map paramText)) :=
      OneLine.joinStrings (by decide) htexts
    simp only [paramsText, oneLine_append, hjoined, and_true]
    decide

namespace Statement

variable {s : Statement}

/-- What stands in the slots of a statement without newlines goes on one line. -/
theorem Unbroken.slotValue (h : s.Unbroken) {key v : String} (hv : s.slotValue key = some v) : OneLine v := by
  unfold Statement.slotValue at hv
  split at hv
  · obtain ⟨ps, hps, rfl⟩ := Option.map_eq_some_iff.1 hv
    exact oneLine_paramsText (h.params ps hps)
  · exact h.values key v hv

end Statement

/-- A remark without newlines is worded on one line. -/
theorem Remark.Unbroken.oneLine_remarkText {r : Remark} (h : r.Unbroken) : OneLine (remarkText r) := by
  simp only [remarkText, oneLine_append, h.time, h.file, and_true]
  decide

/-! ## Blocks -/

/-- A row between the one that opens the diagram and the one that closes it: it is empty or indented. -/
def IsInner (row : String) : Prop := row = "" ∨ "    ".toList <+: row.toList

/-- An indented row is such. -/
theorem isInner_indented (text : String) : IsInner ("    " ++ text) := by
  refine .inr ?_
  rw [String.toList_append]
  exact List.prefix_append _ _

/-- A row that is empty or indented does not begin like the footer. -/
theorem IsInner.not_footer {row : String} (h : IsInner row) : ¬"\x7d".toList <+: row.toList := by
  rcases h with rfl | ⟨rest, hrest⟩
  · decide
  · rw [← hrest]
    simp

/-- **The piece for a statement without newlines has three rows.** -/
theorem exists_rows_of_isPlainBlock {s : Statement} (h : s.Unbroken) {block : String}
    (hblock : IsPlainBlock s block) :
    ∃ rows, HasRows block rows ∧ rows.length = 3 ∧ ∀ row ∈ rows, IsInner row := by
  obtain ⟨template, text, remark, htemplate, htext, hremark, rfl⟩ := hblock
  rw [lookup_templateName, Option.some_inj] at htemplate
  rw [← htemplate, replaceSlots_pieces] at htext
  have hpieces := newline_not_mem_templates _ (pieces_mem_templates s.kind)
  have hindent : OneLine "    " := by decide
  have hfirst : OneLine ("    " ++ text) :=
    (oneLine_append _ _).2 ⟨hindent, oneLine_fill (fun _ _ hv => h.slotValue hv) hpieces htext⟩
  have hsecond : OneLine ("    " ++ remarkText remark) :=
    (oneLine_append _ _).2 ⟨hindent, (h.remark remark hremark).oneLine_remarkText⟩
  refine ⟨["    " ++ text, "    " ++ remarkText remark, ""], ?_, rfl, ?_⟩
  · have hrows := ((HasRows.single oneLine_empty).cons hsecond).cons hfirst
    simpa only [plainBlock, String.append_assoc, String.empty_append] using hrows
  · simp only [List.forall_mem_cons]
    exact ⟨isInner_indented _, isInner_indented _, .inl rfl, List.forall_mem_nil _⟩

/-- The pieces for statements without newlines have three rows each. -/
theorem exists_rows_of_blocks {statements : List Statement} (h : ∀ s ∈ statements, s.Unbroken)
    {blocks : List String} (hblocks : List.Forall₂ IsPlainBlock statements blocks) :
    ∃ rows, HasRows (String.join blocks) rows ∧ rows.length = 3 * statements.length ∧
      ∀ row ∈ rows, IsInner row := by
  induction hblocks with
  | nil => exact ⟨[], .nil, rfl, List.forall_mem_nil _⟩
  | cons hblock _ ih =>
    obtain ⟨hs, hmore⟩ := List.forall_mem_cons.1 h
    obtain ⟨front, hfront, hthree, hinner⟩ := exists_rows_of_isPlainBlock hs hblock
    obtain ⟨rows, hrows, hcount, hinners⟩ := ih hmore
    refine ⟨front ++ rows, ?_, ?_, List.forall_mem_append.2 ⟨hinner, hinners⟩⟩
    · rw [String.join_cons]
      exact hfront.append hrows
    · rw [List.length_append, hthree, hcount, List.length_cons, Nat.mul_add, Nat.add_comm]

/-! ## The header -/

/-- The row that declares a run of entities. -/
def declarationRow (r : Run) : String :=
  Layout.keyword r.dynamic ++ ": " ++ Text.joinStrings ", " r.names

/-- The rows in front of the one that opens the diagram. -/
def headRows (t : ParsedTrace) : List String :=
  ["#include <stdinc.FDL>", ""] ++ t.cast.runs.map declarationRow ++ [""]

/-- The row that opens the diagram. -/
def openingRow : String := "feature \"generated flow\" \x7b"

/-- The row for an entity that is deleted without having been created. -/
def orphanRow (entity : String) : String := "    " ++ "create " ++ entity

theorem isInner_orphanRow (entity : String) : IsInner (orphanRow entity) := by
  rw [orphanRow, String.append_assoc]
  exact isInner_indented _

/-- The names of the cast go on one line, as those of the statements do. -/
theorem ParsedTrace.Recorded.oneLine_names {t : ParsedTrace} (hrecorded : t.Recorded)
    (h : ∀ s ∈ t.statements, s.Unbroken) : ∀ name ∈ t.cast.names, OneLine name := by
  intro name hname
  rw [hrecorded, List.mem_eraseDups] at hname
  obtain ⟨s, hs, hname⟩ := List.mem_flatMap.1 hname
  obtain ⟨-, key, -, hvalue⟩ := (s.mem_referredNames name).1 hname
  exact (h s hs).values key name hvalue

/-- A run of such names is declared on one line. -/
theorem oneLine_declarationRow {r : Run} (h : ∀ name ∈ r.names, OneLine name) :
    OneLine (declarationRow r) := by
  have hnames : OneLine (Text.joinStrings ", " r.names) := OneLine.joinStrings (by decide) h
  have hkeyword : OneLine (Layout.keyword r.dynamic ++ ": ") := by
    cases r.dynamic <;> decide
  exact (oneLine_append _ _).2 ⟨hkeyword, hnames⟩

/-- A row in front of the diagram does not begin like the footer. -/
theorem not_footer_of_mem_headRows {t : ParsedTrace} {row : String} (h : row ∈ headRows t) :
    ¬"\x7d".toList <+: row.toList := by
  simp only [headRows, List.mem_append, List.mem_cons, List.not_mem_nil, or_false, List.mem_map] at h
  rcases h with ((rfl | rfl) | ⟨run, -, rfl⟩) | rfl
  · decide
  · decide
  · -- a declaration begins with its keyword
    cases hdynamic : run.dynamic <;> simp [declarationRow, Layout.keyword, hdynamic]
  · decide

/-- **The rows of a header**: those in front of the diagram, the one that opens it, and one for each entity
that is deleted without having been created. -/
theorem hasRows_header {t : ParsedTrace} (hungrouped : defaultCompiler.layout.Ungrouped t)
    (hnames : ∀ name ∈ t.cast.names, OneLine name) : HasRows (defaultCompiler.layout.header t)
      (headRows t ++ openingRow :: t.cast.orphans.map orphanRow) := by
  have hincludes : HasRows defaultCompiler.layout.includes ["#include <stdinc.FDL>", ""] :=
    ⟨by decide, by decide⟩
  have hruns : HasRows (String.join (t.cast.runs.map fun r =>
      Layout.keyword r.dynamic ++ ": " ++ Text.joinStrings ", " r.names ++ "\n"))
      (t.cast.runs.map declarationRow) := by
    refine .join_map (f := declarationRow) fun r hr =>
      oneLine_declarationRow fun name hname => hnames name ?_
    rw [← t.cast.flatMap_names_runs]
    exact List.mem_flatMap.2 ⟨r, hr, hname⟩
  have hopening : HasRows defaultCompiler.layout.opening ["", openingRow] := ⟨by decide, by decide⟩
  have horphans : HasRows (String.join (t.cast.orphans.map defaultCompiler.layout.orphanLine))
      (t.cast.orphans.map orphanRow) := by
    refine .join_map (f := orphanRow) fun name hname => ?_
    obtain ⟨member, hmember, rfl⟩ := List.mem_map.1 hname
    have hname := hnames member.1 (List.mem_map_of_mem (List.mem_filter.1 hmember).1)
    simp only [orphanRow, oneLine_append, hname, and_true]
    decide
  -- there is no table of groups, so the declarations follow the included files
  rw [hungrouped.header]
  have hrows := ((hincludes.append hruns).append hopening).append horphans
  simpa only [headRows, List.append_assoc, List.cons_append, List.nil_append] using hrows

/-! ## Documents -/

/-- The rows between the one that opens the diagram and the one that closes it, for given rows of the body. -/
def innerRows (t : ParsedTrace) (body : List String) : List String :=
  t.cast.orphans.map orphanRow ++ body

/-- The text is laid out as a document of the trace is. -/
structure LaidOut (t : ParsedTrace) (text : String) : Prop where
  /-- It has a newline for each row. -/
  newlines : text.toList.count '\n' =
    5 + t.cast.runs.length + t.cast.orphans.length + 3 * t.statements.length
  /-- It ends with a newline. Of its rows, those between the one that opens the diagram and the last one are
  empty or begin with four blanks, and only the last one begins with a closing brace. -/
  rows : ∃ body, body.length = 3 * t.statements.length ∧
    Text.split ['\n'] text.toList =
      (headRows t ++ openingRow :: innerRows t body ++ ["\x7d", ""]).map String.toList ∧
    (∀ row ∈ innerRows t body, row = "" ∨ "    ".toList <+: row.toList) ∧
    ∀ row ∈ headRows t ++ openingRow :: innerRows t body, ¬"\x7d".toList <+: row.toList

/-- A trace without newlines in its statements has a document that is laid out so. -/
theorem laidOut_of_unbroken {t : ParsedTrace} (hungrouped : defaultCompiler.layout.Ungrouped t)
    (hrecorded : t.Recorded) (hstatements : ∀ s ∈ t.statements, s.Unbroken) {blocks : List String}
    (hblocks : List.Forall₂ IsPlainBlock t.statements blocks) :
    LaidOut t (defaultCompiler.layout.header t ++ String.join blocks ++ Layout.footer) := by
  have hheader := hasRows_header hungrouped (hrecorded.oneLine_names hstatements)
  obtain ⟨body, hbody, hcount, hrows⟩ := exists_rows_of_blocks hstatements hblocks
  have hfooter : HasRows Layout.footer ["\x7d"] := ⟨by decide, by decide⟩
  have hall := (hheader.append hbody).append hfooter
  have hinner : ∀ row ∈ innerRows t body, IsInner row := by
    refine List.forall_mem_append.2 ⟨fun row hrow => ?_, hrows⟩
    obtain ⟨entity, -, rfl⟩ := List.mem_map.1 hrow
    exact isInner_orphanRow entity
  refine ⟨?_, body, hcount, ?_, hinner, ?_⟩
  · -- five rows are there in every document, and the others are counted by the trace
    rw [hall.count]
    simp only [headRows, List.length_append, List.length_cons, List.length_nil, List.length_map, hcount]
    omega
  · rw [hall.split]
    simp only [innerRows, List.append_assoc, List.cons_append, List.nil_append]
  · refine List.forall_mem_append.2 ⟨fun row hrow => not_footer_of_mem_headRows hrow, ?_⟩
    exact List.forall_mem_cons.2 ⟨by decide, fun row hrow => (hinner row hrow).not_footer⟩

/-- **What a trace says does not break the layout of its document.** Under the default configuration every
trace has a document; its rows are counted by the runs, the orphans and the statements of the trace, and
nothing in the trace can add a row, close the diagram or leave it. -/
theorem rows_default (trace : String) : ∃ r text, TraceReader.ofConfig {} = .ok r ∧
    (compile {} trace).1 = .ok text ∧ LaidOut (r.read trace).1.parsed text := by
  have hunbroken : ∀ s ∈ (defaultReader.read trace).1.parsed.statements, s.Unbroken :=
    TraceReader.unbroken_read rfl (by decide) trace
  obtain ⟨blocks, hblocks⟩ := exists_blocks_read trace
  refine ⟨defaultReader, _, ofConfig_default, compile_of_blocks hblocks,
    laidOut_of_unbroken ?_ (defaultReader.recorded_after _) hunbroken hblocks⟩
  exact Layout.ungrouped_of_notesFallback (defaultReader.notesFallback_after _) rfl

end TraceDiagram
