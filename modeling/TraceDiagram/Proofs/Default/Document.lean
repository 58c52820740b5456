import Mathlib.Data.List.Forall2
import TraceDiagram.Compiler
import TraceDiagram.Proofs.Default.Furnishing

/-! # Documents of the default configuration

Under the default configuration every trace has a document, and its body says what the statements say, word
for word.

* **`plainBlock`** the piece of the body for one statement; **`IsPlainBlock`** which piece that is for a
  given statement.
* **`block_of_isPlainBlock`** the layout gives this piece.
* **`compile_of_blocks`** the pieces of the statements that were read make up the document.
* **`compile_default`** compiling succeeds, and the body is one such piece after the other. -/

namespace TraceDiagram

open Template (replaceSlots)
open DefaultWording

/-! ## Blocks -/

/-- The piece of the body for a statement with a given text and remark: two indented lines and an empty
one. -/
def plainBlock (text : String) (r : Remark) : String :=
  "    " ++ text ++ "\n" ++ "    " ++ remarkText r ++ "\n" ++ "\n"

/-- The piece of the body for a statement: its text is the default template of its kind, with each slot
replaced by its value as it is. -/
def IsPlainBlock (s : Statement) (block : String) : Prop :=
  ∃ template text remark,
    ({} : Config).templates.toList.lookup s.kind.templateName = some template ∧
      replaceSlots s.slotValue template = some text ∧ s.remark = some remark ∧
      block = plainBlock text remark

/-- Replacing the slots of the default template of a kind fills its pieces. -/
theorem replaceSlots_pieces (value : String → Option String) (kind : StatementKind) :
    replaceSlots value (String.ofList (Template.written (pieces kind))) =
      Template.fill value (pieces kind) :=
  Template.replaceSlots_written value (separate_templates _ (pieces_mem_templates kind))

/-- A furnished statement with a remark has a piece. -/
theorem Statement.Furnished.exists_block {s : Statement} (h : s.Furnished) {remark : Remark}
    (hremark : s.remark = some remark) : ∃ block, IsPlainBlock s block := by
  obtain ⟨text, htext⟩ := h.exists_fill
  exact ⟨plainBlock text remark, _, text, remark, lookup_templateName s.kind,
    by rw [replaceSlots_pieces, htext], hremark, rfl⟩

/-! ## Layout -/

/-- A configuration whose templates are read has a compiler. -/
theorem Compiler.ofConfig_of_ok {config : Config} {wording : Wording}
    (h : Wording.ofTemplates config.templates = .ok wording) :
    Compiler.ofConfig config = .ok { config := config, wording := wording } := by
  -- the reading of the templates is not to be evaluated, only to be replaced by its result
  delta Compiler.ofConfig
  simp only [h]

/-- A compiler that has a reader and lays out the body of a trace puts the header in front of it and the
footer behind it. -/
theorem Compiler.compile_of_body {c : Compiler} {r : TraceReader} {trace body : String}
    (hreader : c.reader = .ok r) (hbody : c.layout.body (r.read trace).1.parsed = .ok body) :
    (c.compile trace).1 =
      .ok (c.layout.header (r.read trace).1.parsed ++ body ++ Layout.footer) := by
  have hdocument : c.layout.document (r.read trace).1.parsed =
      .ok (c.layout.header (r.read trace).1.parsed ++ body ++ Layout.footer) := by
    rw [Layout.document, hbody]
  delta Compiler.compile
  simp only [hreader, hdocument]

theorem compile_of_compiler {config : Config} {c : Compiler} (h : Compiler.ofConfig config = .ok c)
    (trace : String) : compile config trace = c.compile trace := by
  delta compile
  simp only [h]

/-- The compiler of the default configuration. -/
def defaultCompiler : Compiler where
  config := {}
  wording := defaultWording

theorem compiler_ofConfig_default : Compiler.ofConfig {} = .ok defaultCompiler :=
  Compiler.ofConfig_of_ok ofTemplates_default

theorem reader_default : defaultCompiler.reader = .ok defaultReader := by
  have hconfig : defaultCompiler.config = {} := rfl
  rw [Compiler.reader, hconfig, ofConfig_default]

/-- No value has a heading. -/
theorem heading_default (s : Statement) : defaultCompiler.layout.heading s = .ok "" := by
  rw [Layout.heading]
  cases s.bookmark? <;> rfl

/-- **Step lemma**: the layout gives the piece of a statement. -/
theorem block_of_isPlainBlock {s : Statement} {block : String} (h : IsPlainBlock s block) :
    defaultCompiler.layout.block s = .ok block := by
  obtain ⟨template, text, remark, htemplate, htext, hremark, rfl⟩ := h
  rw [lookup_templateName, Option.some_inj] at htemplate
  subst htemplate
  rw [replaceSlots_pieces] at htext
  have hwording : defaultCompiler.layout.wording.statement s = .ok text := statement_of_fill htext
  have hline : defaultCompiler.layout.remarkLine s = .ok ("    " ++ remarkText remark ++ "\n") := by
    simp only [Layout.remarkLine, hremark]
    change defaultCompiler.layout.indented <$> defaultWording.remark remark = _
    rw [remark_default]
    rfl
  rw [Layout.block, heading_default, hwording, hline]
  change Except.ok ("" ++ ("    " ++ text ++ "\n") ++ ("    " ++ remarkText remark ++ "\n") ++ "\n") = _
  rw [String.empty_append]
  simp only [plainBlock, String.append_assoc]

/-- **Run lemma**: pieces that the layout gives make up the body. -/
theorem bodyFrom_of_blocks {l : Layout} {statements : List Statement} {blocks : List String}
    (h : List.Forall₂ (fun s block => l.block s = .ok block) statements blocks) (index : Nat) :
    l.bodyFrom index statements = .ok (String.join blocks) := by
  induction h generalizing index with
  | nil => rw [Layout.bodyFrom, String.join_nil]
  | cons hblock _ ih => rw [Layout.bodyFrom, hblock, ih (index + 1), String.join_cons]

/-- Statements that each have a piece have pieces in order. -/
theorem exists_blocks {statements : List Statement} (h : ∀ s ∈ statements, ∃ block, IsPlainBlock s block) :
    ∃ blocks, List.Forall₂ IsPlainBlock statements blocks := by
  induction statements with
  | nil => exact ⟨[], .nil⟩
  | cons s statements ih =>
    obtain ⟨block, hblock⟩ := h s List.mem_cons_self
    obtain ⟨blocks, hblocks⟩ := ih fun s hs => h s (List.mem_cons_of_mem _ hs)
    exact ⟨block :: blocks, .cons hblock hblocks⟩

/-- **Every trace has a document under the default configuration.** Its body is one piece after the other,
each with the text of its statement word for word. -/
theorem compile_default (trace : String) : ∃ c r blocks,
    Compiler.ofConfig {} = .ok c ∧ c.reader = .ok r ∧
      List.Forall₂ IsPlainBlock (r.read trace).1.parsed.statements blocks ∧
      c.layout.body (r.read trace).1.parsed = .ok (String.join blocks) ∧
      (compile {} trace).1 =
        .ok (c.layout.header (r.read trace).1.parsed ++ String.join blocks ++ Layout.footer) := by
  have hfurnished := TraceReader.furnished_after ((Text.lines trace.toList).map String.ofList)
  -- reading a text is reading its lines, so what holds after any lines holds here
  have hread : (defaultReader.read trace).1 =
      defaultReader.after ((Text.lines trace.toList).map String.ofList) := rfl
  obtain ⟨blocks, hblocks⟩ : ∃ blocks,
      List.Forall₂ IsPlainBlock (defaultReader.read trace).1.parsed.statements blocks := by
    refine exists_blocks fun s hs => ?_
    rw [hread] at hs
    obtain ⟨hs, remark, hremark⟩ := hfurnished s hs
    exact hs.exists_block hremark
  have hbody : defaultCompiler.layout.body (defaultReader.read trace).1.parsed =
      .ok (String.join blocks) := by
    have hlaid : List.Forall₂ (fun s block => defaultCompiler.layout.block s = .ok block)
        (defaultReader.read trace).1.parsed.statements blocks :=
      hblocks.imp fun _ _ => block_of_isPlainBlock
    rw [Layout.body, bodyFrom_of_blocks hlaid]
  refine ⟨defaultCompiler, defaultReader, blocks, compiler_ofConfig_default, reader_default, hblocks, hbody,
    ?_⟩
  rw [compile_of_compiler compiler_ofConfig_default]
  exact Compiler.compile_of_body reader_default hbody

/-- Whatever has been read, each of its statements has a piece. -/
theorem exists_blocks_read (trace : String) : ∃ blocks,
    List.Forall₂ IsPlainBlock (defaultReader.read trace).1.parsed.statements blocks := by
  have hfurnished := TraceReader.furnished_after ((Text.lines trace.toList).map String.ofList)
  exact exists_blocks fun s hs => (hfurnished s hs).1.exists_block (hfurnished s hs).2.choose_spec

/-- The pieces of the statements make up the document. -/
theorem compile_of_blocks {trace : String} {blocks : List String}
    (h : List.Forall₂ IsPlainBlock (defaultReader.read trace).1.parsed.statements blocks) :
    (compile {} trace).1 = .ok (defaultCompiler.layout.header (defaultReader.read trace).1.parsed ++
      String.join blocks ++ Layout.footer) := by
  have hbody := bodyFrom_of_blocks (h.imp fun _ _ => block_of_isPlainBlock) 0
  rw [compile_of_compiler compiler_ofConfig_default]
  exact Compiler.compile_of_body reader_default hbody

/-- Under the default configuration no trace is without a document. -/
theorem exists_text_default (trace : String) : ∃ text, (compile {} trace).1 = .ok text := by
  obtain ⟨blocks, hblocks⟩ := exists_blocks_read trace
  exact ⟨_, compile_of_blocks hblocks⟩

end TraceDiagram
