import TraceDiagram.Proofs.BookmarkTexts
import TraceDiagram.Proofs.Problems

/-! # Blank bookmarks

A bookmark of white space matches nothing, unless a pattern finds white space for a name.

* **`Statement.MarkedBy`** a statement has one of some further bookmarks.
* **`compile_withBookmarks_congr`** compiling does not depend on bookmarks that no statement has.
* **`Layout.document_ne_of_markedBy`** but one that a statement has changes the document.
* **`blank_bookmarks`** what that says about blank bookmarks; **`blank_bookmark_matches`** a pattern for quoted
  names finds a blank one. -/

namespace TraceDiagram

/-- One of some texts is looked for among the bookmarks for a statement, and was none of them. -/
def Statement.MarkedBy (s : Statement) (b : TextSet) (more : List String) : Prop :=
  ∃ value ∈ more, s.bookmark? = some value ∧ value ∉ b.items

/-! ## Documents with the same headings -/

namespace Layout

variable {l l' : Layout} {b b' : TextSet} {s : Statement} {statements : List Statement} {t : ParsedTrace}

/-- Bookmarks of which a statement has the same give it the same block. -/
theorem block_withBookmarks_congr
    (h : ∀ value, s.bookmark? = some value → (value ∈ b.items ↔ value ∈ b'.items)) :
    (l.withBookmarks b).block s = (l.withBookmarks b').block s := by
  have hheading : (l.withBookmarks b).heading s = (l.withBookmarks b').heading s := by
    rw [heading, heading]
    cases hvalue : s.bookmark? with
    | none => rfl
    | some value =>
      have hsame : b.contains value = b'.contains value := by
        rw [Bool.eq_iff_iff, TextSet.contains_iff, TextSet.contains_iff, h value hvalue]
      simp only [withBookmarks, hsame]
      rfl
  rw [block, block, hheading]
  rfl

/-- Layouts that give all statements the same blocks give them the same body. -/
theorem bodyFrom_congr (h : ∀ s ∈ statements, l.block s = l'.block s) (index : Nat) :
    l.bodyFrom index statements = l'.bodyFrom index statements := by
  induction statements generalizing index with
  | nil => rfl
  | cons s statements ih =>
    obtain ⟨hs, hrest⟩ := List.forall_mem_cons.1 h
    rw [bodyFrom, bodyFrom, hs, ih hrest]

/-- Bookmarks of which all statements have the same give the same document. -/
theorem document_withBookmarks_congr (h : ∀ s ∈ t.statements, ∀ value, s.bookmark? = some value →
    (value ∈ b.items ↔ value ∈ b'.items)) :
    (l.withBookmarks b).document t = (l.withBookmarks b').document t := by
  have hbody : (l.withBookmarks b).body t = (l.withBookmarks b').body t :=
    bodyFrom_congr (fun s hs => block_withBookmarks_congr (h s hs)) 0
  rw [document, document, hbody]
  rfl

/-! ## Documents with more headings -/

/-- The heading that a statement has with some bookmarks, it has with more as well. -/
theorem lineOf_heading_cases (hmore : ∀ value ∈ b.items, value ∈ b'.items) :
    (l.withBookmarks b).lineOf s .heading = "" ∨
      (l.withBookmarks b).lineOf s .heading = (l.withBookmarks b').lineOf s .heading := by
  cases hrendering : (l.withBookmarks b).rendering s .heading with
  | none => exact .inl (by rw [lineOf, hrendering])
  | some rendered =>
    obtain ⟨key, value, hkey, hvalue, hne, hmem, hrendered⟩ := rendering_heading_eq_some_iff.1 hrendering
    have hrendering' := rendering_heading_eq_some_iff.2 ⟨key, value, hkey, hvalue, hne, hmore value hmem, hrendered⟩
    refine .inr ?_
    rw [lineOf, lineOf, hrendering, hrendering']
    rfl

theorem length_blockText (l : Layout) (b : TextSet) (s : Statement) : ((l.withBookmarks b).blockText s).length =
    ((l.withBookmarks b).lineOf s .heading).length + ((l.withBookmarks ∅).blockText s).length := by
  rw [blockText_withBookmarks, String.length_append]

/-- A block gets no shorter with more bookmarks. -/
theorem length_blockText_le (hmore : ∀ value ∈ b.items, value ∈ b'.items) :
    ((l.withBookmarks b).blockText s).length ≤ ((l.withBookmarks b').blockText s).length := by
  rw [length_blockText l b, length_blockText l b']
  rcases lineOf_heading_cases (l := l) (s := s) hmore with hline | hline
  · rw [hline, String.length_empty]
    omega
  · rw [hline]

/-- It gets longer with one that the statement has. -/
theorem length_blockText_lt (hsound : (l.withBookmarks b').Sound s) {value : String}
    (hvalue : s.bookmark? = some value) (hold : value ∉ b.items) (hnew : value ∈ b'.items) :
    ((l.withBookmarks b).blockText s).length < ((l.withBookmarks b').blockText s).length := by
  obtain ⟨key, hkey, hattribute, hne⟩ := Statement.bookmark?_eq_some_iff.1 hvalue
  have hbefore : (l.withBookmarks b).rendering s .heading = none := by
    refine Option.eq_none_iff_forall_ne_some.2 fun rendered hrendered => ?_
    obtain ⟨key', value', hkey', hattribute', -, hmem, -⟩ := rendering_heading_eq_some_iff.1 hrendered
    obtain rfl := Option.some.inj (hkey.symm.trans hkey')
    obtain rfl := Option.some.inj (hattribute.symm.trans hattribute')
    exact hold hmem
  have hafter : (l.withBookmarks b').rendering s .heading = some (l.wording.bookmark value) :=
    rendering_heading_eq_some_iff.2 ⟨key, value, hkey, hattribute, hne, hnew, rfl⟩
  rw [length_blockText l b, length_blockText l b', lineOf, lineOf, hbefore, hafter]
  cases htitle : l.wording.bookmark value with
  | error e => exact absurd (hafter.trans (congrArg some htitle)) (hsound .heading e)
  | ok title =>
    simp only [indented, String.length_append, String.length_empty]
    have hnewline : "\n".length = 1 := rfl
    omega

/-- Pieces of which none is shorter make up a text that is not shorter. -/
theorem length_join_le {f g : Statement → String} (h : ∀ s ∈ statements, (f s).length ≤ (g s).length) :
    (String.join (statements.map f)).length ≤ (String.join (statements.map g)).length := by
  induction statements with
  | nil => exact Nat.le_refl _
  | cons s statements ih =>
    obtain ⟨hs, hrest⟩ := List.forall_mem_cons.1 h
    simp only [List.map_cons, String.join_cons, String.length_append]
    exact Nat.add_le_add hs (ih hrest)

/-- If one of them is longer, so is the text. -/
theorem length_join_lt {f g : Statement → String} (h : ∀ s ∈ statements, (f s).length ≤ (g s).length)
    (hlonger : ∃ s ∈ statements, (f s).length < (g s).length) :
    (String.join (statements.map f)).length < (String.join (statements.map g)).length := by
  induction statements with
  | nil =>
    obtain ⟨_, hmem, -⟩ := hlonger
    cases hmem
  | cons s statements ih =>
    obtain ⟨hs, hrest⟩ := List.forall_mem_cons.1 h
    simp only [List.map_cons, String.join_cons, String.length_append]
    obtain ⟨longer, hmem, hlt⟩ := hlonger
    rcases List.mem_cons.1 hmem with rfl | hmem
    · exact Nat.add_lt_add_of_lt_of_le hlt (length_join_le hrest)
    · exact Nat.add_lt_add_of_le_of_lt hs (ih hrest ⟨longer, hmem, hlt⟩)

/-- **A bookmark that a statement has changes the document.** The new document, if there is one, is longer. -/
theorem document_ne_of_markedBy {more : List String} (hs : ∃ s ∈ t.statements, s.MarkedBy b more) {text : String}
    (h : (l.withBookmarks b).document t = .ok text) : (l.withBookmarks (b.addAll more)).document t ≠ .ok text := by
  intro h'
  obtain ⟨_, _, _, _, -, hfailed⟩ | ⟨-, hdocument⟩ := (l.withBookmarks b).document_eq_cases t
  · cases h.symm.trans hfailed
  obtain ⟨_, _, _, _, -, hfailed⟩ | ⟨hsound, hdocument'⟩ := (l.withBookmarks (b.addAll more)).document_eq_cases t
  · cases h'.symm.trans hfailed
  -- both documents have the same header and footer, and of the blocks none is shorter and one is longer
  have hlonger : (String.join (t.statements.map (l.withBookmarks b).blockText)).length <
      (String.join (t.statements.map (l.withBookmarks (b.addAll more)).blockText)).length := by
    obtain ⟨s, hmem, value, hmore, hvalue, hold⟩ := hs
    have hkept : ∀ value ∈ b.items, value ∈ (b.addAll more).items := fun value hvalue =>
      TextSet.mem_addAll.2 (.inl hvalue)
    exact length_join_lt (fun s _ => length_blockText_le hkept)
      ⟨s, hmem, length_blockText_lt (hsound s hmem) hvalue hold (TextSet.mem_addAll.2 (.inr hmore))⟩
  have hheader : (l.withBookmarks b).header t = (l.withBookmarks (b.addAll more)).header t := rfl
  have hlength := congrArg String.length
    (Except.ok.inj (hdocument.symm.trans (h.trans (h'.symm.trans hdocument'))))
  simp only [hheader, String.length_append] at hlength
  omega

end Layout

/-! ## Compiling -/

/-- A configuration with more bookmarks. -/
def Config.addBookmarks (config : Config) (more : List String) : Config :=
  config.withBookmarks (config.format.bookmarks.addAll more)

/-- **Compiling does not depend on bookmarks that no statement has.** -/
theorem compile_withBookmarks_congr {config : Config} {b b' : TextSet} {trace : String}
    (h : ∀ r, TraceReader.ofConfig config = .ok r → ∀ s ∈ (r.read trace).1.parsed.statements, ∀ value,
      s.bookmark? = some value → (value ∈ b.items ↔ value ∈ b'.items)) :
    compile (config.withBookmarks b) trace = compile (config.withBookmarks b') trace := by
  delta compile
  rw [Compiler.ofConfig_withBookmarks, Compiler.ofConfig_withBookmarks]
  cases hc : Compiler.ofConfig config with
  | error e => rfl
  | ok c =>
    simp only [Except.map]
    delta Compiler.compile
    rw [Compiler.reader_withBookmarks, Compiler.reader_withBookmarks]
    cases hr : c.reader with
    | error e => rfl
    | ok r =>
      have hconfig : TraceReader.ofConfig config = .ok r := by
        rw [← Compiler.config_of_ofConfig hc, ← c.reader_eq_ok_iff, hr]
      simp only [Compiler.layout_withBookmarks, Layout.document_withBookmarks_congr (h r hconfig)]

/-- **One that a statement has changes the document.** -/
theorem compile_ne_of_markedBy {config : Config} {r : TraceReader} (hr : TraceReader.ofConfig config = .ok r)
    {more : List String} {trace text : String} (h : (compile config trace).1 = .ok text)
    (hs : ∃ s ∈ (r.read trace).1.parsed.statements, s.MarkedBy config.format.bookmarks more) :
    (compile (config.addBookmarks more) trace).1 ≠ .ok text := by
  obtain ⟨c, r', hc, hr', hdocument⟩ := exists_document_of_compile h
  obtain rfl := Except.ok.inj (hr.symm.trans hr')
  have hconfig := Compiler.config_of_ofConfig hc
  have hsame : c.layout.withBookmarks config.format.bookmarks = c.layout := by
    rw [← hconfig]
    rfl
  have hcompiler : Compiler.ofConfig (config.addBookmarks more) =
      .ok (c.withBookmarks (config.format.bookmarks.addAll more)) := by
    rw [Config.addBookmarks, Compiler.ofConfig_withBookmarks, hc, Except.map]
  have hreader : (c.withBookmarks (config.format.bookmarks.addAll more)).reader = .ok r := by
    rw [Compiler.reader_withBookmarks, c.reader_eq_ok_iff, hconfig, hr]
  rw [compile_of_readers hcompiler hreader, Compiler.layout_withBookmarks]
  exact Layout.document_ne_of_markedBy hs (by rw [hsame, hdocument])

/-! ## Blank bookmarks -/

/-- What further bookmarks do that are blank. -/
structure BlankBookmarks (config : Config) (blanks : List String) (trace : String) : Prop where
  /-- There is a warning that they do not match. -/
  warned : ∀ blank ∈ blanks,
    "Blank bookmark entry never matches" ∈ (Findings.ofConfig (config.addBookmarks blanks)).warnings
  /-- If no statement has one of them, compiling comes to the same, with the same messages. -/
  unmarked : (∀ r, TraceReader.ofConfig config = .ok r → ∀ s ∈ (r.read trace).1.parsed.statements,
      ¬s.MarkedBy config.format.bookmarks blanks) →
    compile (config.addBookmarks blanks) trace = compile config trace
  /-- If a statement has one of them, a document does not stay as it is. -/
  marked : ∀ r text, TraceReader.ofConfig config = .ok r → (compile config trace).1 = .ok text →
    (∃ s ∈ (r.read trace).1.parsed.statements, s.MarkedBy config.format.bookmarks blanks) →
      (compile (config.addBookmarks blanks) trace).1 ≠ .ok text
  /-- A statement has one of them only if the pattern of its kind has found white space for the name of a message,
  a method or a timer. -/
  found : ∀ r, TraceReader.ofConfig config = .ok r → ∀ s ∈ (r.read trace).1.parsed.statements,
    s.MarkedBy config.format.bookmarks blanks →
      ∃ line ∈ linesOf trace, ∃ fields, r.fieldsOn line = some fields ∧
        ∃ value ∈ blanks, value ≠ "" ∧ r.rules.patterns.FindsBookmark fields.body s.kind value
  /-- With patterns that never find white space for a name, compiling comes to the same. -/
  visible : (∀ patterns, BodyPatterns.ofConfig config = .ok patterns → patterns.FindsVisible) →
    compile (config.addBookmarks blanks) trace = compile config trace
  /-- So it does with the default patterns for bodies. -/
  default : config.patterns = {} → compile (config.addBookmarks blanks) trace = compile config trace

section Assembly

variable {config : Config} {blanks : List String} {trace : String}

theorem warned_of_isBlankText {blank : String} (hmem : blank ∈ blanks) (hblank : IsBlankText blank) :
    "Blank bookmark entry never matches" ∈ (Findings.ofConfig (config.addBookmarks blanks)).warnings := by
  have hbookmark : blank ∈ (config.addBookmarks blanks).format.bookmarks.items := TextSet.mem_addAll.2 (.inr hmem)
  refine List.mem_append_right _ (List.mem_append_right _ (List.mem_map_of_mem (List.mem_filter.2 ⟨hbookmark, ?_⟩)))
  rw [hblank.trim_eq]
  rfl

/-- Further bookmarks that no statement has change nothing. -/
theorem compile_addBookmarks_of_unmarked (h : ∀ r, TraceReader.ofConfig config = .ok r →
      ∀ s ∈ (r.read trace).1.parsed.statements, ¬s.MarkedBy config.format.bookmarks blanks) :
    compile (config.addBookmarks blanks) trace = compile config trace := by
  refine (compile_withBookmarks_congr fun r hr s hs value hvalue => ?_).symm
  refine ⟨fun hmem => TextSet.mem_addAll.2 (.inl hmem), fun hmem => ?_⟩
  rcases TextSet.mem_addAll.1 hmem with hold | hnew
  · exact hold
  · by_contra hold
    exact h r hr s hs ⟨value, hnew, hvalue, hold⟩

/-- A blank bookmark that a statement has was found by a pattern. -/
theorem found_of_markedBy (hblanks : ∀ blank ∈ blanks, IsBlankText blank) {r : TraceReader}
    (hr : TraceReader.ofConfig config = .ok r) {s : Statement} (hs : s ∈ (r.read trace).1.parsed.statements)
    (hmarked : s.MarkedBy config.format.bookmarks blanks) : ∃ line ∈ linesOf trace, ∃ fields,
      r.fieldsOn line = some fields ∧
        ∃ value ∈ blanks, value ≠ "" ∧ r.rules.patterns.FindsBookmark fields.body s.kind value := by
  obtain ⟨value, hmem, hvalue, -⟩ := hmarked
  obtain ⟨-, -, -, hne⟩ := Statement.bookmark?_eq_some_iff.1 hvalue
  obtain ⟨line, hline, fields, hfields, hfound⟩ := TraceReader.finds_of_isBlankText
    (TraceReader.handlers_of_ofConfig hr) (linesOf trace) hs hvalue (hblanks value hmem)
  exact ⟨line, hline, fields, hfields, value, hmem, hne, hfound⟩

/-- Patterns that never find white space for a name leave nothing to blank bookmarks. -/
theorem compile_addBookmarks_of_visible (hblanks : ∀ blank ∈ blanks, IsBlankText blank)
    (h : ∀ patterns, BodyPatterns.ofConfig config = .ok patterns → patterns.FindsVisible) :
    compile (config.addBookmarks blanks) trace = compile config trace := by
  refine compile_addBookmarks_of_unmarked fun r hr s hs hmarked => ?_
  obtain ⟨_, -, fields, -, value, hmem, hne, hfound⟩ := found_of_markedBy hblanks hr hs hmarked
  exact hne (h _ (TraceReader.patterns_of_ofConfig hr) fields.body s.kind value hfound (hblanks value hmem))

end Assembly

/-- **A blank bookmark matches only what a pattern has found.** For every configuration, every trace and all
further bookmarks that are empty or made of white space: compiling comes to the same, unless the pattern of a
message, a call or a timer finds white space for a name and that is one of them; in this case a document changes,
against the warning. -/
theorem blank_bookmarks (config : Config) (blanks : List String) (trace : String)
    (hblanks : ∀ blank ∈ blanks, IsBlankText blank) : BlankBookmarks config blanks trace where
  warned blank hmem := warned_of_isBlankText hmem (hblanks blank hmem)
  unmarked := compile_addBookmarks_of_unmarked
  marked _ _ hr h hs := compile_ne_of_markedBy hr h hs
  found _ hr _ hs hmarked := found_of_markedBy hblanks hr hs hmarked
  visible := compile_addBookmarks_of_visible hblanks
  default hpatterns := by
    refine compile_addBookmarks_of_visible hblanks fun patterns hread => ?_
    rw [bodyPatterns_ofConfig_of_patterns hpatterns] at hread
    obtain rfl := Except.ok.inj hread
    exact BodyPatterns.findsVisible_default _ _

/-- With the default patterns nothing in a trace is blank enough. -/
theorem blank_bookmarks_default :
    (∀ blank ∈ ["", " ", "\t\u3000"], IsBlankText blank) ∧
    compile (({} : Config).addBookmarks ["", " ", "\t\u3000"]) "[1][Server][a.c] started T\n[2][Server][a.c] state " =
      compile {} "[1][Server][a.c] started T\n[2][Server][a.c] state " := by
  have hblanks : ∀ blank ∈ ["", " ", "\t\u3000"], IsBlankText blank := by decide
  exact ⟨hblanks, (blank_bookmarks {} _ _ hblanks).default rfl⟩

/-! ## A blank name -/

/-- The default configuration with a pattern for timers with quoted names. -/
def quotedTimers : Config := { patterns := { timer := "^\"(?P<timer>[^\"]*)\"" } }

/-- The pattern as a tree. -/
def quotedTimer : Pattern :=
  DefaultPattern.ofParts [DefaultPattern.mark '"', DefaultPattern.without 1 '"', DefaultPattern.mark '"'] ["timer"]

/-- The reader of the configuration. -/
def quotedReader : TraceReader :=
  { defaultReader with rules := { defaultRules with patterns := { defaultBodyPatterns with timer := quotedTimer } } }

theorem ofConfig_quotedTimers : TraceReader.ofConfig quotedTimers = .ok quotedReader := by
  have htimer : Pattern.compile "^\"(?P<timer>[^\"]*)\"" = .ok quotedTimer :=
    DefaultPattern.compile_eq_ok (by decide +kernel)
  have hpatterns : BodyPatterns.ofConfig quotedTimers = .ok quotedReader.rules.patterns :=
    bodyPatterns_ofConfig_of_timer rfl htimer
  have hrules : ExtractionRules.ofConfig quotedTimers = .ok quotedReader.rules :=
    (ExtractionRules.ofConfig_eq_ok_iff _ _).2 ⟨_, hpatterns, rfl⟩
  have hline : TraceReader.linePatternOf quotedTimers = .ok DefaultPattern.line := linePatternOf_of_linePattern rfl
  exact (TraceReader.ofConfig_eq_ok_iff _ _).2 ⟨_, _, hline, hrules, rfl⟩

/-- The compiler of the configuration. -/
def quotedCompiler : Compiler where
  config := quotedTimers
  wording := defaultWording

/-- A trace that starts a timer whose name is a space. -/
def blankTimerTrace : String := "[1][Server][a.c] started \" \""

/-- The statement of its line. -/
def blankTimer : Statement :=
  TraceReader.complete ⟨"started", "Server", "\" \""⟩ ⟨"1", "a.c", "Server"⟩
    ((({ kind := .startTimer } : Statement).setAttribute "object" "System").setAttribute "timer" " ")

theorem statements_blankTimerTrace :
    (quotedReader.read blankTimerTrace).1.parsed.statements = [blankTimer] := by
  decide +kernel

/-- The trace has a document. -/
theorem exists_text_blankTimerTrace : ∃ text, (compile quotedTimers blankTimerTrace).1 = .ok text := by
  have hcompiler : Compiler.ofConfig quotedTimers = .ok quotedCompiler := Compiler.ofConfig_of_ok ofTemplates_default
  have hreader : quotedCompiler.reader = .ok quotedReader := (Compiler.reader_eq_ok_iff _ _).2 ofConfig_quotedTimers
  -- the layout does not depend on the patterns, so the statement is laid out as by default
  have hlayout : quotedCompiler.layout = defaultCompiler.layout := rfl
  have hblock : IsPlainBlock blankTimer (plainBlock "System starts  " ⟨"1", "a.c", "Server"⟩) :=
    ⟨_, _, _, DefaultWording.lookup_templateName _, by decide +kernel, rfl, rfl⟩
  have hbody : quotedCompiler.layout.body (quotedReader.read blankTimerTrace).1.parsed =
      .ok (String.join [plainBlock "System starts  " ⟨"1", "a.c", "Server"⟩]) := by
    rw [Layout.body, statements_blankTimerTrace, hlayout]
    exact bodyFrom_of_blocks (.cons (block_of_isPlainBlock hblock) .nil) 0
  rw [compile_of_compiler hcompiler]
  exact ⟨_, Compiler.compile_of_body hreader hbody⟩

/-- **A blank bookmark can match.** The configuration with a space for a bookmark has another document than without,
although there is a warning that the bookmark never matches. -/
theorem blank_bookmark_matches :
    IsBlankText " " ∧
      "Blank bookmark entry never matches" ∈ (Findings.ofConfig (quotedTimers.addBookmarks [" "])).warnings ∧
      ∃ text, (compile quotedTimers blankTimerTrace).1 = .ok text ∧
        (compile (quotedTimers.addBookmarks [" "]) blankTimerTrace).1 ≠ .ok text := by
  have hblank : IsBlankText " " := by decide
  obtain ⟨text, htext⟩ := exists_text_blankTimerTrace
  have hmarked : blankTimer.MarkedBy quotedTimers.format.bookmarks [" "] :=
    ⟨" ", List.mem_cons_self, by decide +kernel, List.not_mem_nil⟩
  have hmem : blankTimer ∈ (quotedReader.read blankTimerTrace).1.parsed.statements := by
    rw [statements_blankTimerTrace]
    exact List.mem_cons_self
  exact ⟨hblank, warned_of_isBlankText List.mem_cons_self hblank, text, htext,
    compile_ne_of_markedBy ofConfig_quotedTimers htext ⟨blankTimer, hmem, hmarked⟩⟩

end TraceDiagram
