import TraceDiagram.Proofs.Fragments
import TraceDiagram.Proofs.Default.Document

/-! # What bookmarks add

Bookmarks put headings in front of the texts of some statements, and have no other influence on what compiling
comes to.

* **`Layout.HeadingLine`** the line that some bookmarks put in front of a statement, and
  **`Layout.PlainBlock`** what is laid out of it without any.
* **`Layout.faulty_withBookmarks`** headings that can be rendered add no fault.
* **`Layout.document_withBookmarks`** so the first fault is the same, and without one each block has its heading
  in front.
* **`compile_inserts_headings`** what that says about compiling one trace with and without bookmarks. -/

namespace TraceDiagram

open Template (RenderError)

/-- A configuration with other bookmarks. -/
def Config.withBookmarks (config : Config) (b : TextSet) : Config :=
  { config with format := { config.format with bookmarks := b } }

/-- A compiler with other bookmarks. -/
def Compiler.withBookmarks (c : Compiler) (b : TextSet) : Compiler :=
  { c with config := c.config.withBookmarks b }

/-- A text is looked for among the bookmarks if it is the value of the attribute and not empty. -/
theorem Statement.bookmark?_eq_some_iff {s : Statement} {value : String} :
    s.bookmark? = some value ↔
      ∃ key, s.kind.bookmarkKey? = some key ∧ s.value? key = some value ∧ value ≠ "" := by
  rw [bookmark?]
  cases s.kind.bookmarkKey? with
  | none => simp
  | some key =>
    cases hvalue : s.value? key with
    | none => simp [hvalue]
    | some found =>
      by_cases hfound : found = value
      · simp [hvalue, hfound]
      · simp [hvalue, hfound]

/-- Returns, creations and deletions are the statements without an attribute for bookmarks. -/
theorem StatementKind.bookmarkKey?_eq_none_iff (kind : StatementKind) :
    kind.bookmarkKey? = none ↔ kind ∈ [.methodReturn, .create, .delete] := by
  cases kind <;> decide

namespace Layout

/-- A layout with other bookmarks. -/
def withBookmarks (l : Layout) (b : TextSet) : Layout :=
  { l with format := { l.format with bookmarks := b } }

/-- The line in front of the text of a statement: a heading if the kind of the statement has an attribute for
bookmarks, and its value is there, is not empty, and is one of the bookmarks; nothing otherwise. -/
inductive HeadingLine (l : Layout) (b : TextSet) (s : Statement) : String → Prop where
  /-- The value is a bookmark. -/
  | marked {key value title : String} (hkey : s.kind.bookmarkKey? = some key)
      (hvalue : s.value? key = some value) (hne : value ≠ "") (hmem : value ∈ b.items)
      (htitle : l.wording.bookmark value = .ok title) : HeadingLine l b s (l.format.indent ++ title ++ "\n")
  /-- No value is. -/
  | unmarked (h : ∀ key value, s.kind.bookmarkKey? = some key → s.value? key = some value → value ≠ "" →
      value ∉ b.items) : HeadingLine l b s ""

/-- What is laid out of a statement without bookmarks: its text, its remark and an empty line. -/
def PlainBlock (l : Layout) (s : Statement) (block : String) : Prop :=
  ∃ text remark, l.wording.statement s = .ok text ∧ l.remarkLine s = .ok remark ∧
    block = l.format.indent ++ text ++ "\n" ++ remark ++ "\n"

variable {l : Layout} {b : TextSet} {s : Statement} {f : Fragment} {e : RenderError}

/-- Statements whose kind has no attribute for bookmarks have no heading. -/
theorem HeadingLine.eq_empty {heading : String} (h : l.HeadingLine b s heading)
    (hkind : s.kind ∈ [StatementKind.methodReturn, .create, .delete]) : heading = "" := by
  rw [← StatementKind.bookmarkKey?_eq_none_iff] at hkind
  cases h with
  | marked hkey => simp [hkind] at hkey
  | unmarked _ => rfl

/-! ## Fragments -/

/-- Only the rendering of headings depends on the bookmarks. -/
theorem rendering_withBookmarks (hf : f ≠ .heading) :
    (l.withBookmarks b).rendering s f = (l.withBookmarks ∅).rendering s f := by
  cases f
  · contradiction
  all_goals rfl

/-- The heading of a statement is rendered for the value of its attribute, if that is a bookmark. -/
theorem rendering_heading_eq_some_iff {rendered : Except RenderError String} :
    (l.withBookmarks b).rendering s .heading = some rendered ↔
      ∃ key value, s.kind.bookmarkKey? = some key ∧ s.value? key = some value ∧ value ≠ "" ∧
        value ∈ b.items ∧ l.wording.bookmark value = rendered := by
  have hrendering : (l.withBookmarks b).rendering s .heading =
      (s.bookmark?.filter b.contains).map l.wording.bookmark := rfl
  simp only [hrendering, Option.map_eq_some_iff, Option.filter_eq_some_iff, Statement.bookmark?_eq_some_iff,
    TextSet.contains_iff]
  constructor
  · rintro ⟨value, ⟨⟨key, hkey, hvalue, hne⟩, hmem⟩, hrendered⟩
    exact ⟨key, value, hkey, hvalue, hne, hmem, hrendered⟩
  · rintro ⟨key, value, hkey, hvalue, hne, hmem, hrendered⟩
    exact ⟨value, ⟨⟨key, hkey, hvalue, hne⟩, hmem⟩, hrendered⟩

/-- Without bookmarks there are no headings. -/
theorem rendering_heading_empty : (l.withBookmarks ∅).rendering s .heading = none := by
  rw [rendering]
  cases s.bookmark? <;> rfl

section Rendered

variable (hrender : ∀ value ∈ b.items, ∃ title, l.wording.bookmark value = .ok title)

include hrender

/-- Headings that can be rendered are no faults. -/
theorem not_faulty_heading : ¬(l.withBookmarks b).Faulty s .heading e := by
  intro h
  obtain ⟨key, value, -, -, -, hmem, hvalue⟩ := rendering_heading_eq_some_iff.1 h
  obtain ⟨title, htitle⟩ := hrender value hmem
  simp [htitle] at hvalue

/-- So the faults are the same with and without bookmarks. -/
theorem faulty_withBookmarks : (l.withBookmarks b).Faulty s f e ↔ (l.withBookmarks ∅).Faulty s f e := by
  by_cases hf : f = .heading
  · subst hf
    refine iff_of_false (not_faulty_heading hrender) fun h => ?_
    rw [Faulty, rendering_heading_empty] at h
    cases h
  · rw [Faulty, Faulty, rendering_withBookmarks hf]

theorem sound_withBookmarks : (l.withBookmarks b).Sound s ↔ (l.withBookmarks ∅).Sound s := by
  simp only [Sound, faulty_withBookmarks hrender]

theorem firstFaultAt_withBookmarks {statements : List Statement} {index : Nat}
    (h : (l.withBookmarks ∅).FirstFaultAt statements index s f e) :
    (l.withBookmarks b).FirstFaultAt statements index s f e where
  here := h.here
  before earlier hmem := (sound_withBookmarks hrender).2 (h.before earlier hmem)
  first := by simpa only [FirstFault, faulty_withBookmarks hrender] using h.first

/-- The line of the heading is the one that the bookmarks put in front of the statement. -/
theorem headingLine_lineOf : l.HeadingLine b s ((l.withBookmarks b).lineOf s .heading) := by
  rw [lineOf]
  cases hheading : (l.withBookmarks b).rendering s .heading with
  | none =>
    refine .unmarked fun key value hkey hvalue hne hmem => ?_
    have hsome : (l.withBookmarks b).rendering s .heading = some (l.wording.bookmark value) :=
      rendering_heading_eq_some_iff.2 ⟨key, value, hkey, hvalue, hne, hmem, rfl⟩
    simp [hheading] at hsome
  | some rendered =>
    cases rendered with
    | error e => exact absurd hheading (not_faulty_heading hrender)
    | ok title =>
      obtain ⟨key, value, hkey, hvalue, hne, hmem, htitle⟩ := rendering_heading_eq_some_iff.1 hheading
      exact .marked hkey hvalue hne hmem htitle

end Rendered

/-! ## Documents -/

/-- A block has the line of its heading in front of what is laid out without bookmarks. -/
theorem blockText_withBookmarks : (l.withBookmarks b).blockText s =
    (l.withBookmarks b).lineOf s .heading ++ (l.withBookmarks ∅).blockText s := by
  have hnone : (l.withBookmarks ∅).lineOf s .heading = "" := by rw [lineOf, rendering_heading_empty]
  rw [blockText, blockText, hnone, String.empty_append]
  simp only [String.append_assoc]
  rfl

/-- What is laid out without bookmarks is the text, the remark and an empty line. -/
theorem plainBlock_blockText (h : (l.withBookmarks ∅).Sound s) :
    l.PlainBlock s ((l.withBookmarks ∅).blockText s) := by
  obtain ⟨heading, text, remark, hheading, htext, hremark, hblock⟩ := exists_of_block_eq_ok _ (block_of_sound h)
  have hnone : (l.withBookmarks ∅).heading s = .ok "" := by
    rw [heading_eq_line, line, rendering_heading_empty]
  obtain rfl : heading = "" := Except.ok.inj (hheading.symm.trans hnone)
  refine ⟨text, remark, htext, hremark, ?_⟩
  rw [hblock, String.empty_append]
  rfl

variable {t : ParsedTrace}

/-- **Bookmarks whose headings can be rendered only insert these.** A document without bookmarks and one with
them fail alike, or differ in the headings. -/
theorem document_withBookmarks (hrender : ∀ value ∈ b.items, ∃ title, l.wording.bookmark value = .ok title) :
    (∃ failure, (l.withBookmarks ∅).document t = .error failure ∧
      (l.withBookmarks b).document t = .error failure) ∨
    ∃ headings blocks, List.Forall₂ (l.HeadingLine b) t.statements headings ∧
      List.Forall₂ l.PlainBlock t.statements blocks ∧
      (l.withBookmarks ∅).document t = .ok (l.header t ++ String.join blocks ++ footer) ∧
      (l.withBookmarks b).document t =
        .ok (l.header t ++ String.join (List.zipWith (· ++ ·) headings blocks) ++ footer) := by
  obtain ⟨index, s, f, e, hfault, hdocument⟩ | ⟨hsound, hdocument⟩ := (l.withBookmarks ∅).document_eq_cases t
  · exact .inl ⟨_, hdocument, (firstFaultAt_withBookmarks hrender hfault).document_eq⟩
  · refine .inr ⟨t.statements.map ((l.withBookmarks b).lineOf · .heading),
      t.statements.map (l.withBookmarks ∅).blockText, ?_, ?_, hdocument, ?_⟩
    · exact List.forall₂_map_right_iff.2 (List.forall₂_same.2 fun s _ => headingLine_lineOf hrender)
    · exact List.forall₂_map_right_iff.2 (List.forall₂_same.2 fun s hs => plainBlock_blockText (hsound s hs))
    · have hmarked : ∀ s ∈ t.statements, (l.withBookmarks b).Sound s :=
        fun s hs => (sound_withBookmarks hrender).2 (hsound s hs)
      rw [document_of_sound hmarked, List.zipWith_map, List.zipWith_self,
        List.map_congr_left fun s _ => blockText_withBookmarks]
      rfl

end Layout

/-! ## Compiling -/

namespace Compiler

/-- The bookmarks have no influence on the templates. -/
theorem ofConfig_withBookmarks (config : Config) (b : TextSet) :
    ofConfig (config.withBookmarks b) = (ofConfig config).map (·.withBookmarks b) := by
  have htemplates : (config.withBookmarks b).templates = config.templates := rfl
  delta ofConfig
  rw [htemplates]
  cases Wording.ofTemplates config.templates <;> rfl

variable (c : Compiler) (b : TextSet) (trace : String)

/-- Nor do they have any on the patterns and the rules. -/
theorem reader_withBookmarks : (c.withBookmarks b).reader = c.reader := rfl

theorem layout_withBookmarks : (c.withBookmarks b).layout = c.layout.withBookmarks b := rfl

variable {c} {d : Compiler}

/-- Two compilers that read a trace alike, and have a document of it or the same failure, give the same
messages. -/
theorem compile_snd_congr (hreader : d.reader = c.reader) {r : TraceReader} (hr : c.reader = .ok r)
    (h : (∃ failure, c.layout.document (r.read trace).1.parsed = .error failure ∧
        d.layout.document (r.read trace).1.parsed = .error failure) ∨
      ∃ text text', c.layout.document (r.read trace).1.parsed = .ok text ∧
        d.layout.document (r.read trace).1.parsed = .ok text') :
    (d.compile trace).2 = (c.compile trace).2 := by
  rw [hr] at hreader
  delta Compiler.compile
  obtain ⟨failure, hc, hd⟩ | ⟨text, text', hc, hd⟩ := h <;> simp only [hr, hreader, hc, hd]

end Compiler

/-- What bookmarks add to what compiling a trace comes to. -/
structure InsertsHeadings (config : Config) (b : TextSet) (trace : String) : Prop where
  /-- A failure is the same with and without them. -/
  failure_iff : ∀ failure, (compile (config.withBookmarks b) trace).1 = .error failure ↔
    (compile (config.withBookmarks ∅) trace).1 = .error failure
  /-- A document is laid out of one block for each statement, and with bookmarks each has its heading in front. -/
  document : ∀ plain, (compile (config.withBookmarks ∅) trace).1 = .ok plain →
    ∃ c r headings blocks, Compiler.ofConfig config = .ok c ∧ TraceReader.ofConfig config = .ok r ∧
      List.Forall₂ (c.layout.HeadingLine b) (r.read trace).1.parsed.statements headings ∧
      List.Forall₂ c.layout.PlainBlock (r.read trace).1.parsed.statements blocks ∧
      plain = c.layout.header (r.read trace).1.parsed ++ String.join blocks ++ Layout.footer ∧
      (compile (config.withBookmarks b) trace).1 = .ok (c.layout.header (r.read trace).1.parsed ++
        String.join (List.zipWith (· ++ ·) headings blocks) ++ Layout.footer)
  /-- Returns, creations and deletions have no heading. -/
  unheaded : ∀ c, Compiler.ofConfig config = .ok c → ∀ s : Statement,
    s.kind ∈ [StatementKind.methodReturn, .create, .delete] →
      ∀ heading, c.layout.HeadingLine b s heading → heading = ""
  /-- The messages are the same. -/
  log : (compile (config.withBookmarks b) trace).2 = (compile (config.withBookmarks ∅) trace).2

section Assembly

variable {config : Config} {b : TextSet} {trace : String}

/-- A failure before anything is laid out is the same for all bookmarks. -/
theorem InsertsHeadings.of_error {failure : Failure} {log : List LogEntry}
    (h : ∀ bookmarks, compile (config.withBookmarks bookmarks) trace = (.error failure, log)) :
    InsertsHeadings config b trace where
  failure_iff := by simp [h]
  document := by simp [h]
  unheaded _ _ _ hs _ hheading := hheading.eq_empty hs
  log := by simp [h]

variable {c : Compiler} {r : TraceReader}

/-- A compiler that reads traces lays them out with and without the bookmarks. -/
theorem InsertsHeadings.of_readers (hc : Compiler.ofConfig config = .ok c) (hr : c.reader = .ok r)
    (hrender : ∀ value ∈ b.items, ∃ title, c.wording.bookmark value = .ok title) :
    InsertsHeadings config b trace := by
  have hcompiler (bookmarks : TextSet) : Compiler.ofConfig (config.withBookmarks bookmarks) =
      .ok (c.withBookmarks bookmarks) := by
    rw [Compiler.ofConfig_withBookmarks, hc, Except.map]
  have hreader (bookmarks : TextSet) : (c.withBookmarks bookmarks).reader = .ok r := by
    rw [Compiler.reader_withBookmarks, hr]
  have hfst (bookmarks : TextSet) : (compile (config.withBookmarks bookmarks) trace).1 =
      (c.layout.withBookmarks bookmarks).document (r.read trace).1.parsed := by
    rw [compile_of_readers (hcompiler bookmarks) (hreader bookmarks), Compiler.layout_withBookmarks]
  have hconfig : TraceReader.ofConfig config = .ok r := by
    rw [← Compiler.config_of_ofConfig hc, ← c.reader_eq_ok_iff, hr]
  -- the reader is the same for all bookmarks, so both documents are laid out of one trace
  have hdocument := c.layout.document_withBookmarks (t := (r.read trace).1.parsed) hrender
  refine ⟨fun failure => ?_, fun plain hplain => ?_, fun _ _ _ hs _ hheading => hheading.eq_empty hs, ?_⟩
  · rw [hfst, hfst]
    obtain ⟨e, hplain, hmarked⟩ | ⟨_, _, -, -, hplain, hmarked⟩ := hdocument
    · rw [hplain, hmarked]
    · simp [hplain, hmarked]
  · rw [hfst] at hplain ⊢
    obtain ⟨e, herror, -⟩ | ⟨headings, blocks, hheadings, hblocks, hlaid, hmarked⟩ := hdocument
    · simp [herror] at hplain
    · exact ⟨c, r, headings, blocks, hc, hconfig, hheadings, hblocks,
        Except.ok.inj (hplain.symm.trans hlaid), hmarked⟩
  · rw [compile_of_compiler (hcompiler b), compile_of_compiler (hcompiler ∅)]
    refine Compiler.compile_snd_congr trace rfl (hreader ∅) ?_
    obtain ⟨e, hplain, hmarked⟩ | ⟨_, _, -, -, hplain, hmarked⟩ := hdocument
    · exact .inl ⟨e, hplain, hmarked⟩
    · exact .inr ⟨_, _, hplain, hmarked⟩

end Assembly

/-- **Bookmarks only insert headings.** For every configuration, every trace, and bookmarks for each of which the
template for headings can be rendered: compiling with the bookmarks comes to what compiling without any does,
except for a line in front of each statement whose bookmark is among them. -/
theorem compile_inserts_headings (config : Config) (b : TextSet) (trace : String)
    (hrender : ∀ c, Compiler.ofConfig config = .ok c →
      ∀ value ∈ b.items, ∃ title, c.wording.bookmark value = .ok title) :
    InsertsHeadings config b trace := by
  cases hc : Compiler.ofConfig config with
  | error e =>
    have herror (bookmarks : TextSet) : compile (config.withBookmarks bookmarks) trace = (.error e, []) := by
      delta compile
      simp only [Compiler.ofConfig_withBookmarks, hc, Except.map]
    exact .of_error herror
  | ok c =>
    cases hr : c.reader with
    | error e =>
      have hreader (bookmarks : TextSet) : (c.withBookmarks bookmarks).reader = .error e := by
        rw [Compiler.reader_withBookmarks, hr]
      have herror (bookmarks : TextSet) : compile (config.withBookmarks bookmarks) trace = (.error e, []) := by
        delta compile Compiler.compile
        simp only [Compiler.ofConfig_withBookmarks, hc, Except.map, hreader]
      exact .of_error herror
    | ok r => exact .of_readers hc hr (hrender c hc)

/-- The bookmark of a message, which the default template can be rendered for. -/
theorem compile_inserts_headings_hello :
    (∀ c, Compiler.ofConfig {} = .ok c → ∀ value ∈ (TextSet.ofList ["Hello"]).items,
      ∃ title, c.wording.bookmark value = .ok title) ∧
    InsertsHeadings {} (TextSet.ofList ["Hello"]) "[1][Server][a.c] received Hello from Client" := by
  have hrender : ∀ c, Compiler.ofConfig {} = .ok c → ∀ value ∈ (TextSet.ofList ["Hello"]).items,
      ∃ title, c.wording.bookmark value = .ok title := by
    intro c hc value _
    obtain rfl : defaultCompiler = c := Except.ok.inj (compiler_ofConfig_default.symm.trans hc)
    exact ⟨_, bookmark_default value⟩
  exact ⟨hrender, compile_inserts_headings {} (TextSet.ofList ["Hello"]) _ hrender⟩

end TraceDiagram
