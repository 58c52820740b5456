import Mathlib.Data.List.Forall2
import TraceDiagram.Compiler

/-! # What compiling comes to

* **`compile_fst`** a document is laid out from what has been read, once the templates and the patterns of
  the configuration have been read.
* **`exists_document_of_compile`** every document comes about in this way.
* **`bodyFrom_append`** a body is laid out from the front; **`exists_blocks_of_document`** it has one piece
  for each statement, and **`document_cases`** only a statement can keep it from being laid out. -/

namespace TraceDiagram

/-- The configuration of a compiler is the one that it was made of. -/
theorem Compiler.config_of_ofConfig {config : Config} {c : Compiler}
    (h : Compiler.ofConfig config = .ok c) : c.config = config := by
  delta Compiler.ofConfig at h
  cases hw : Wording.ofTemplates config.templates with
  | error e => simp [hw] at h
  | ok wording =>
    simp only [hw, Except.ok.injEq] at h
    rw [← h]

/-- The reader of a compiler is the one of its configuration. -/
theorem Compiler.reader_eq_ok_iff (c : Compiler) (r : TraceReader) :
    c.reader = .ok r ↔ TraceReader.ofConfig c.config = .ok r := by
  rw [Compiler.reader]
  cases TraceReader.ofConfig c.config <;> simp

/-- **What compiling comes to**: the first of three steps that fails decides, and if none does there is a
document. -/
theorem compile_fst (config : Config) (trace : String) :
    (compile config trace).1 = (Compiler.ofConfig config).bind fun c => c.reader.bind fun r =>
      c.layout.document (r.read trace).1.parsed := by
  delta compile
  cases Compiler.ofConfig config with
  | error e => rfl
  | ok c =>
    delta Compiler.compile
    cases hr : c.reader with
    | error e => simp only [hr, Except.bind]
    | ok r =>
      cases hd : c.layout.document (r.read trace).1.parsed <;> simp only [hr, hd, Except.bind]

/-- A document is laid out from what the reader of its configuration has read. -/
theorem exists_document_of_compile {config : Config} {trace text : String}
    (h : (compile config trace).1 = .ok text) : ∃ c r, Compiler.ofConfig config = .ok c ∧
      TraceReader.ofConfig config = .ok r ∧
      c.layout.document (r.read trace).1.parsed = .ok text := by
  rw [compile_fst] at h
  cases hc : Compiler.ofConfig config with
  | error e => simp [hc, Except.bind] at h
  | ok c =>
    cases hr : c.reader with
    | error e => simp [hc, hr, Except.bind] at h
    | ok r =>
      refine ⟨c, r, rfl, ?_, by simpa [hc, hr, Except.bind] using h⟩
      rw [← Compiler.config_of_ofConfig hc, ← c.reader_eq_ok_iff, hr]

/-- Once the templates and the patterns have been read, what has been read of the trace is laid out. -/
theorem compile_of_readers {config : Config} {c : Compiler} {r : TraceReader}
    (hc : Compiler.ofConfig config = .ok c) (hr : c.reader = .ok r) (trace : String) :
    (compile config trace).1 = c.layout.document (r.read trace).1.parsed := by
  rw [compile_fst, hc, Except.bind, hr, Except.bind]

namespace Layout

variable (l : Layout)

/-- The body for some statements and more is the body for the first and then that for the others. -/
theorem bodyFrom_append (index : Nat) (statements more : List Statement) :
    l.bodyFrom index (statements ++ more) = (l.bodyFrom index statements).bind fun body =>
      (l.bodyFrom (index + statements.length) more).map (body ++ ·) := by
  induction statements generalizing index with
  | nil =>
    rw [List.nil_append, bodyFrom, Except.bind, List.length_nil, Nat.add_zero]
    cases l.bodyFrom index more <;> simp [Except.map]
  | cons s statements ih =>
    have hplace : index + (s :: statements).length = index + 1 + statements.length := by
      rw [List.length_cons, Nat.add_assoc, Nat.add_comm 1]
    rw [List.cons_append, bodyFrom, bodyFrom, ih, hplace]
    -- the first of the pieces that fails decides on both sides
    cases l.block s with
    | error e => rfl
    | ok block =>
      cases l.bodyFrom (index + 1) statements with
      | error e => rfl
      | ok body =>
        cases l.bodyFrom (index + 1 + statements.length) more with
        | error e => rfl
        | ok rest => simp only [Except.bind, Except.map, String.append_assoc]

/-- A block that is laid out has a heading, a text and a remark. -/
theorem exists_of_block_eq_ok {s : Statement} {block : String} (h : l.block s = .ok block) :
    ∃ heading text remark, l.heading s = .ok heading ∧ l.wording.statement s = .ok text ∧
      l.remarkLine s = .ok remark ∧ block = heading ++ l.indented text ++ remark ++ "\n" := by
  rw [Layout.block] at h
  cases hheading : l.heading s with
  | error e => simp [hheading, bind, Except.bind] at h
  | ok heading =>
    cases htext : l.wording.statement s with
    | error e => simp [hheading, htext, bind, Except.bind] at h
    | ok text =>
      cases hremark : l.remarkLine s with
      | error e => simp [hheading, htext, hremark, bind, Except.bind] at h
      | ok remark =>
        simp only [hheading, htext, hremark, bind, Except.bind, pure, Except.pure, Except.ok.injEq] at h
        exact ⟨heading, text, remark, rfl, rfl, rfl, h.symm⟩

/-- Only a statement can keep a body from being laid out. -/
theorem eq_statement_of_bodyFrom {index : Nat} {statements : List Statement} {e : Failure}
    (h : l.bodyFrom index statements = .error e) :
    ∃ place template detail, e = .statement place template detail := by
  induction statements generalizing index with
  | nil => simp [bodyFrom] at h
  | cons s statements ih =>
    rw [bodyFrom] at h
    cases hs : l.block s with
    | error cause =>
      simp only [hs, Except.error.injEq] at h
      exact ⟨index, s.kind.templateName, cause.message, h.symm⟩
    | ok block =>
      cases hrest : l.bodyFrom (index + 1) statements with
      | error cause =>
        simp only [hs, hrest, Except.error.injEq] at h
        exact ih (h ▸ hrest)
      | ok more => simp [hs, hrest] at h

/-- A trace has a document, or a statement cannot be put into words. -/
theorem document_cases (t : ParsedTrace) : (∃ text, l.document t = .ok text) ∨
    ∃ place template detail, l.document t = .error (.statement place template detail) := by
  rw [document]
  cases hbody : l.body t with
  | error e =>
    obtain ⟨place, template, detail, rfl⟩ := l.eq_statement_of_bodyFrom hbody
    exact .inr ⟨place, template, detail, rfl⟩
  | ok body => exact .inl ⟨_, rfl⟩

/-- A body that is laid out has one piece for each statement, in order. -/
theorem exists_blocks_of_bodyFrom {index : Nat} {statements : List Statement} {body : String}
    (h : l.bodyFrom index statements = .ok body) : ∃ blocks,
      List.Forall₂ (fun s block => l.block s = .ok block) statements blocks ∧
      body = String.join blocks := by
  induction statements generalizing index body with
  | nil =>
    rw [bodyFrom, Except.ok.injEq] at h
    exact ⟨[], .nil, by rw [← h, String.join_nil]⟩
  | cons s statements ih =>
    rw [bodyFrom] at h
    cases hs : l.block s with
    | error e => simp [hs] at h
    | ok block =>
      cases hrest : l.bodyFrom (index + 1) statements with
      | error e => simp [hs, hrest] at h
      | ok more =>
        obtain ⟨blocks, hblocks, rfl⟩ := ih hrest
        simp only [hs, hrest, Except.ok.injEq] at h
        exact ⟨block :: blocks, .cons hs hblocks, by rw [← h, String.join_cons]⟩

/-- A document has the header, one piece for each statement and the footer. -/
theorem exists_blocks_of_document {t : ParsedTrace} {text : String} (h : l.document t = .ok text) :
    ∃ blocks, List.Forall₂ (fun s block => l.block s = .ok block) t.statements blocks ∧
      text = l.header t ++ String.join blocks ++ footer := by
  rw [document] at h
  cases hbody : l.body t with
  | error e => simp [hbody] at h
  | ok body =>
    obtain ⟨blocks, hblocks, rfl⟩ := l.exists_blocks_of_bodyFrom hbody
    exact ⟨blocks, hblocks, by simpa [hbody] using h.symm⟩

end Layout

end TraceDiagram
