import TraceDiagram.Proofs.SilentLines

/-! # Line ends

A trace is read in the same way whichever way its lines are ended.

* **`HasLines`** the texts that spell some lines, each ended by a newline with or without a carriage return in
  front of it.
* **`linesOf_of_hasLines`** all of these texts are cut into the lines that they spell.
* **`compile_of_hasLines`** so the document of the text is that of its lines, read one by one. -/

namespace TraceDiagram

/-! ## Texts of lines -/

/-- What ends a line. -/
inductive LineEnd where
  /-- A newline. -/
  | newline
  /-- A carriage return and a newline. -/
  | returnNewline

/-- How it is written. -/
def LineEnd.text : LineEnd → String
  | .newline => "\n"
  | .returnNewline => "\r\n"

/-- A text has the given lines, in order. Each of them is ended in one way or the other, no matter how the others
are; only the last one may do without, unless it is empty. -/
inductive HasLines : List String → String → Prop where
  /-- The empty text has no lines. -/
  | nothing : HasLines [] ""
  /-- The last line may be left open. -/
  | unended {line : String} (hne : line ≠ "") : HasLines [line] line
  /-- A line, its end, and a text with the other lines. -/
  | ended {line rest : String} {lines : List String} (ending : LineEnd) (hrest : HasLines lines rest) :
    HasLines (line :: lines) (line ++ ending.text ++ rest)

/-- A line holds nothing that could end it before its own end does. -/
structure IsLine (line : String) : Prop where
  /-- There is no newline in it. -/
  newline_not_mem : '\n' ∉ line.toList
  /-- There is no carriage return at its end, which would be taken for a part of what ends the line. -/
  getLast?_ne : line.toList.getLast? ≠ some '\r'

instance (line : String) : Decidable (IsLine line) :=
  decidable_of_iff ('\n' ∉ line.toList ∧ line.toList.getLast? ≠ some '\r')
    ⟨fun h => ⟨h.1, h.2⟩, fun h => ⟨h.newline_not_mem, h.getLast?_ne⟩⟩

/-- A line is cut off where it ends, in either way. -/
theorem IsLine.lines_append {line : String} (h : IsLine line) (ending : LineEnd) (rest : List Char) :
    Text.lines (line.toList ++ (ending.text.toList ++ rest)) = line.toList :: Text.lines rest := by
  cases ending with
  | newline => exact Text.lines_append h.newline_not_mem h.getLast?_ne rest
  | returnNewline => exact Text.lines_append_return h.newline_not_mem rest

/-- **A text is cut into its lines**, whichever way they are ended. -/
theorem linesOf_of_hasLines {lines : List String} {text : String} (h : HasLines lines text)
    (hlines : ∀ line ∈ lines, IsLine line) : linesOf text = lines := by
  induction h with
  | nothing => rfl
  | @unended line hne =>
    have hline := hlines line List.mem_cons_self
    have hnil : line.toList ≠ [] := fun h => hne (String.toList_inj.1 h)
    rw [linesOf, Text.lines_of_newline_not_mem hline.newline_not_mem hnil, List.map_singleton,
      String.ofList_toList]
  | @ended line rest lines ending _ ih =>
    obtain ⟨hline, hrest⟩ := List.forall_mem_cons.1 hlines
    rw [linesOf, String.toList_append, String.toList_append, List.append_assoc, hline.lines_append ending,
      List.map_cons, String.ofList_toList]
    exact congrArg (line :: ·) (ih hrest)

/-! ## Reading -/

/-- Reading lines is taking one step after the other. -/
theorem TraceReader.run_fst_eq_foldl (r : TraceReader) (state : TraceState) (lines : List String) :
    (r.run state lines).1 = lines.foldl (fun state line => (r.step state line).1) state := by
  induction lines generalizing state with
  | nil => rfl
  | cons line lines ih => rw [r.run_cons_fst, ih, List.foldl_cons]

/-- What a text is compiled to depends on its lines alone. -/
theorem compile_of_linesOf_eq {trace other : String} (h : linesOf other = linesOf trace) (config : Config) :
    compile config other = compile config trace := by
  have hread : ∀ r : TraceReader, r.read other = r.read trace := fun r => by
    rw [TraceReader.read, ← linesOf, h, linesOf, TraceReader.read]
  delta compile Compiler.compile
  simp only [hread]

/-- **Line ends do not matter.** For every configuration, lines without newlines in them and without carriage
returns at their ends, and every text of these lines: compiling the text comes to what reading the lines one by
one and laying out the document does, and any other text of the lines is compiled to the same, with the same
messages on the way. -/
theorem compile_of_hasLines (config : Config) {lines : List String} {trace : String}
    (hlines : ∀ line ∈ lines, IsLine line) (htrace : HasLines lines trace) :
    (compile config trace).1 = ((Compiler.ofConfig config).bind fun c => c.reader.bind fun r =>
      c.layout.document (lines.foldl (fun state line => (r.step state line).1) r.start).parsed) ∧
    ∀ other, HasLines lines other → compile config other = compile config trace := by
  have hcut := linesOf_of_hasLines htrace hlines
  refine ⟨?_, fun other hother => compile_of_linesOf_eq ?_ config⟩
  · have hread : ∀ r : TraceReader, (r.read trace).1 =
        lines.foldl (fun state line => (r.step state line).1) r.start := fun r => by
      rw [← r.run_fst_eq_foldl, ← hcut]
      rfl
    simp only [compile_fst, hread]
  · rw [hcut, linesOf_of_hasLines hother hlines]

/-- A call and its return with an empty line between them: the ends of lines are mixed and the last is left out
in one text, and they are all newlines in the other. -/
theorem compile_mixed_line_ends :
    compile {} ("[10][Server][srv.c:1] called Server::handle()" ++ "\r\n" ++
      ("" ++ "\n" ++ "[11][Server][srv.c:5] returned from Server::handle()")) =
    compile {} ("[10][Server][srv.c:1] called Server::handle()" ++ "\n" ++
      ("" ++ "\n" ++ ("[11][Server][srv.c:5] returned from Server::handle()" ++ "\n" ++ ""))) := by
  have hlines : ∀ line ∈ ["[10][Server][srv.c:1] called Server::handle()", "",
      "[11][Server][srv.c:5] returned from Server::handle()"], IsLine line := by decide +kernel
  obtain ⟨-, hothers⟩ :=
    compile_of_hasLines {} hlines (.ended .newline (.ended .newline (.ended .newline .nothing)))
  exact hothers _ (.ended .returnNewline (.ended .newline (.unended (by decide))))

end TraceDiagram
