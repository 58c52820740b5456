import TraceDiagram.Extraction.BodyPatterns

/-! # Lists of parameters

A list of parameters that is written with one character in each and another one in between is read back as it
was, whatever else the parameters are made of, with any white space around them and anything in between that is
no parameter.

* **`ListMarks`** two characters by which lists are written; **`ListedParam`** a parameter that they cannot be
  mistaken for, with white space around its parts.
* **`ParamSyntax.read_eq_filterMap`** a list is read piece by piece; **`ListMarks.read_listed`** the pieces are
  those that are listed.
* **`Interspersed`** a list with more texts in it; **`ListMarks.params_read_back`** a list is read back, also if
  texts that are no parameters stand anywhere in it.
* **`PlainParam`** a parameter that the marks of a list by default cannot be mistaken for;
  **`ParamSyntax.read_writtenList`** reads a list of them back. -/

namespace TraceDiagram

open Text

/-! ## Reading piece by piece -/

namespace ParamSyntax

variable {x : ParamSyntax}

/-- A piece without a separator is no parameter. -/
theorem readOne_eq_none {item : List Char} (h : occursIn x.valueSeparator.toList item = false) :
    x.readOne item = none := by
  rw [readOne, Option.map_eq_none_iff]
  exact Option.not_isSome_iff_eq_none.1 (ne_true_of_eq_false h)

/-- **A list is read piece by piece.** That a text without a separator is not split at all makes no difference,
as none of its pieces has one. -/
theorem read_eq_filterMap (hsep : x.valueSeparator ≠ "") (raw : String) :
    x.read raw = (split x.pairSeparator.toList raw.toList).filterMap x.readOne := by
  have hempty : x.valueSeparator.isEmpty = false := by simpa using hsep
  rw [read, hempty, Bool.false_or]
  cases hoccurs : occursIn x.valueSeparator.toList raw.toList with
  | true => rfl
  | false =>
    rw [if_pos (by rfl), eq_comm, List.filterMap_eq_nil_iff]
    intro piece hpiece
    refine readOne_eq_none (Bool.eq_false_iff.2 fun hin => ?_)
    -- a separator in a piece would be one in the text
    have hraw := ((occursIn_iff_isInfix _ _).1 hin).trans (isInfix_of_mem_split hpiece)
    rw [(occursIn_iff_isInfix _ _).2 hraw] at hoccurs
    cases hoccurs

end ParamSyntax

/-! ## Lists with any marks -/

/-- Two characters by which lists of parameters are written. -/
structure ListMarks where
  /-- The one between an attribute and its value. -/
  value : Char
  /-- The one between two parameters. -/
  pair : Char
  /-- They can be told apart. -/
  value_ne_pair : value ≠ pair

/-- White space that has no marks of a list in it, although a mark may be white space. -/
structure Padding (m : ListMarks) where
  /-- The white space. -/
  chars : List Char
  /-- It is white space. -/
  isBlank_chars : ∀ c ∈ chars, isBlank c = true
  /-- No attribute ends in it. -/
  value_not_mem : m.value ∉ chars
  /-- No parameter ends in it. -/
  pair_not_mem : m.pair ∉ chars

/-- A parameter in a list, with white space around its attribute and around its value. The value may contain the
mark that stands in front of it. -/
structure ListedParam (m : ListMarks) where
  /-- The attribute. -/
  name : List Char
  /-- Its value. -/
  value : List Char
  /-- There is no white space at the ends of the attribute. -/
  name_trimmed : trimChars name = name
  /-- There is no white space at the ends of the value. -/
  value_trimmed : trimChars value = value
  /-- The attribute ends in front of the mark. -/
  value_not_mem_name : m.value ∉ name
  /-- The attribute has no mark between parameters in it. -/
  pair_not_mem_name : m.pair ∉ name
  /-- The value has no mark between parameters in it. -/
  pair_not_mem_value : m.pair ∉ value
  /-- What stands in front of the attribute. -/
  beforeName : Padding m
  /-- What stands behind it. -/
  afterName : Padding m
  /-- What stands in front of the value. -/
  beforeValue : Padding m
  /-- What stands behind it. -/
  afterValue : Padding m

namespace ListedParam

variable {m : ListMarks}

/-- What a statement says of the parameter. -/
def param (p : ListedParam m) : Param where
  name := String.ofList p.name
  value := String.ofList p.value

/-- What stands in front of the mark. -/
def front (p : ListedParam m) : List Char := p.beforeName.chars ++ (p.name ++ p.afterName.chars)

/-- What stands behind it. -/
def back (p : ListedParam m) : List Char := p.beforeValue.chars ++ (p.value ++ p.afterValue.chars)

/-- The parameter as it is written. -/
def written (p : ListedParam m) : List Char := p.front ++ m.value :: p.back

theorem pair_not_mem_written (p : ListedParam m) : m.pair ∉ p.written := by
  simp [written, front, back, p.beforeName.pair_not_mem, p.afterName.pair_not_mem, p.beforeValue.pair_not_mem,
    p.afterValue.pair_not_mem, p.pair_not_mem_name, p.pair_not_mem_value, m.value_ne_pair.symm]

end ListedParam

/-- A list with more texts of a kind in it, at any places. -/
inductive Interspersed (kind : List Char → Prop) : List (List Char) → List (List Char) → Prop where
  /-- Nothing is listed. -/
  | nil : Interspersed kind [] []
  /-- A text of the list. -/
  | keep (text : List Char) {texts more : List (List Char)} (h : Interspersed kind texts more) :
      Interspersed kind (text :: texts) (text :: more)
  /-- A text that is added. -/
  | add {text : List Char} (htext : kind text) {texts more : List (List Char)}
      (h : Interspersed kind texts more) : Interspersed kind texts (text :: more)

namespace ListMarks

variable (m : ListMarks)

/-- The way in which lists are written with the marks. -/
def paramSyntax : ParamSyntax where
  valueSeparator := String.singleton m.value
  pairSeparator := String.singleton m.pair

@[simp] theorem toList_valueSeparator : m.paramSyntax.valueSeparator.toList = [m.value] :=
  String.toList_singleton m.value

@[simp] theorem toList_pairSeparator : m.paramSyntax.pairSeparator.toList = [m.pair] :=
  String.toList_singleton m.pair

/-- Some texts as a list. -/
def listed (texts : List (List Char)) : String := String.ofList (join [m.pair] texts)

/-- A text that is no parameter, nor two of them. -/
def IsIdle (text : List Char) : Prop := m.pair ∉ text ∧ m.value ∉ text

/-- A parameter is read back. -/
theorem readOne_written (p : ListedParam m) : m.paramSyntax.readOne p.written = some p.param := by
  have hfront : m.value ∉ p.front := by
    simp [ListedParam.front, p.beforeName.value_not_mem, p.afterName.value_not_mem, p.value_not_mem_name]
  have hname : trimChars p.front = p.name := by
    rw [ListedParam.front, trimChars_surrounded p.beforeName.isBlank_chars p.afterName.isBlank_chars,
      p.name_trimmed]
  have hvalue : trimChars p.back = p.value := by
    rw [ListedParam.back, trimChars_surrounded p.beforeValue.isBlank_chars p.afterValue.isBlank_chars,
      p.value_trimmed]
  rw [ParamSyntax.readOne, m.toList_valueSeparator, ListedParam.written, splitOnce?_append hfront]
  simp only [Option.map_some, hname, hvalue]
  rfl

theorem readOne_of_isIdle {text : List Char} (h : m.IsIdle text) : m.paramSyntax.readOne text = none := by
  refine ParamSyntax.readOne_eq_none (Bool.eq_false_iff.2 fun hin => h.2 ?_)
  rw [m.toList_valueSeparator, occursIn_iff_isInfix] at hin
  exact hin.subset List.mem_cons_self

/-- What is read of a list is what is read of each text that is listed. -/
theorem read_listed (texts : List (List Char)) : m.paramSyntax.read (m.listed texts) =
    texts.flatMap fun text => (split [m.pair] text).filterMap m.paramSyntax.readOne := by
  have hsep : m.paramSyntax.valueSeparator ≠ "" := by
    intro h
    have hchars := m.toList_valueSeparator
    rw [h] at hchars
    cases hchars
  rw [ParamSyntax.read_eq_filterMap hsep, m.toList_pairSeparator, listed, String.toList_ofList]
  cases texts with
  | nil =>
    -- the empty list is one empty text, which is no parameter
    have hempty : m.IsIdle [] := ⟨List.not_mem_nil, List.not_mem_nil⟩
    rw [join, split_of_not_mem hempty.1, List.filterMap_cons_none (m.readOne_of_isIdle hempty)]
    rfl
  | cons text texts => rw [split_join _ (List.cons_ne_nil _ _), List.filterMap_flatMap]

/-- Parameters that are listed are read back in order. -/
theorem read_listed_written (ps : List (ListedParam m)) :
    m.paramSyntax.read (m.listed (ps.map ListedParam.written)) = ps.map ListedParam.param := by
  rw [read_listed, List.flatMap_map]
  induction ps with
  | nil => rfl
  | cons p ps ih =>
    rw [List.flatMap_cons, ih, split_of_not_mem p.pair_not_mem_written,
      List.filterMap_cons_some (m.readOne_written p)]
    rfl

/-- Texts that are no parameters are passed over. -/
theorem read_listed_of_interspersed {texts more : List (List Char)} (h : Interspersed m.IsIdle texts more) :
    m.paramSyntax.read (m.listed more) = m.paramSyntax.read (m.listed texts) := by
  rw [read_listed, read_listed]
  induction h with
  | nil => rfl
  | keep text h ih => rw [List.flatMap_cons, List.flatMap_cons, ih]
  | add htext h ih =>
    rw [List.flatMap_cons, ih, split_of_not_mem htext.1, List.filterMap_cons_none (m.readOne_of_isIdle htext)]
    rfl

/-- **Lists of parameters are read back**, for any two characters by which they are written: what is read is the
list of the parameters in order, and it stays the same if texts that are no parameters are added to a list,
wherever they stand and whatever is listed. -/
theorem params_read_back :
    (∀ ps : List (ListedParam m),
      m.paramSyntax.read (m.listed (ps.map ListedParam.written)) = ps.map ListedParam.param) ∧
    ∀ texts more, Interspersed m.IsIdle texts more →
      m.paramSyntax.read (m.listed more) = m.paramSyntax.read (m.listed texts) :=
  ⟨m.read_listed_written, fun _ _ => m.read_listed_of_interspersed⟩

/-- Marks of which one is white space. -/
def blankMarks : ListMarks where
  value := ' '
  pair := ';'
  value_ne_pair := by decide

/-- A tab, which is white space but no mark. -/
def tab : Padding blankMarks where
  chars := ['\t']
  isBlank_chars := List.forall_mem_singleton.2 (by decide)
  value_not_mem := by decide
  pair_not_mem := by decide

/-- A parameter whose attribute is empty and whose value has the mark of values in it. -/
def unnamed : ListedParam blankMarks where
  name := []
  value := ['a', ' ', 'b']
  name_trimmed := by decide
  value_trimmed := by decide
  value_not_mem_name := by decide
  pair_not_mem_name := by decide
  pair_not_mem_value := by decide
  beforeName := tab
  afterName := tab
  beforeValue := tab
  afterValue := tab

/-- Between texts that are no parameters, a parameter is read back although its value is marked by a blank, its
attribute is empty and white space stands around both. -/
theorem params_read_back_blankMarks :
    Interspersed blankMarks.IsIdle [unnamed.written] [['x'], unnamed.written, []] ∧
      blankMarks.paramSyntax.read (blankMarks.listed [['x'], unnamed.written, []]) = [⟨"", "a b"⟩] := by
  have hletter : blankMarks.IsIdle ['x'] := ⟨by decide, by decide⟩
  have hempty : blankMarks.IsIdle [] := ⟨by decide, by decide⟩
  have hmore : Interspersed blankMarks.IsIdle [unnamed.written] [['x'], unnamed.written, []] :=
    .add hletter (.keep _ (.add hempty .nil))
  refine ⟨hmore, ?_⟩
  rw [blankMarks.params_read_back.2 _ _ hmore]
  exact blankMarks.params_read_back.1 [unnamed]

end ListMarks

/-! ## Lists by default -/

/-- A parameter whose attribute and value have no white space at their ends and none of the marks by which
lists are written. The value may contain equals signs. -/
structure PlainParam where
  /-- The attribute. -/
  name : List Char
  /-- Its value. -/
  value : List Char
  /-- There is no white space at the ends of the attribute. -/
  name_trimmed : trimChars name = name
  /-- There is no white space at the ends of the value. -/
  value_trimmed : trimChars value = value
  /-- The attribute ends in front of the equals sign. -/
  equals_not_mem_name : '=' ∉ name
  /-- The attribute has no mark of a list in it and is on one line. -/
  name_free : ∀ c ∈ [',', ')', '\n'], c ∉ name
  /-- The value has no mark of a list in it and is on one line. -/
  value_free : ∀ c ∈ [',', ')', '\n'], c ∉ value

namespace PlainParam

/-- What a statement says of the parameter. -/
def param (p : PlainParam) : Param where
  name := String.ofList p.name
  value := String.ofList p.value

/-- The parameter as it is written. -/
def written (p : PlainParam) : List Char := p.name ++ '=' :: p.value

/-- Some parameters as a list, with a comma and a blank in between. -/
def writtenList (ps : List PlainParam) : List Char := join [',', ' '] (ps.map written)

/-- The marks of a list do not occur in a parameter. -/
theorem not_mem_written (p : PlainParam) {c : Char} (hc : c ∈ [',', ')', '\n']) : c ∉ p.written := by
  have hequals : c ≠ '=' := by
    rintro rfl
    revert hc
    decide
  simp [written, p.name_free c hc, p.value_free c hc, hequals]

/-- A character that does not occur in any parameter, nor between two, does not occur in the list. -/
theorem not_mem_writtenList (ps : List PlainParam) {c : Char} (hc : c ∈ [')', '\n']) :
    c ∉ writtenList ps := by
  intro hlist
  rcases mem_of_mem_join hlist with hsep | ⟨text, htext, hmem⟩
  · simp only [List.mem_cons, List.not_mem_nil, or_false] at hc hsep
    rcases hc with rfl | rfl <;> simp at hsep
  · obtain ⟨p, -, rfl⟩ := List.mem_map.1 htext
    exact p.not_mem_written (List.mem_cons_of_mem _ hc) hmem

end PlainParam

/-- How lists of parameters are written by default. -/
def defaultParamSyntax : ParamSyntax := { valueSeparator := "=", pairSeparator := "," }

/-- The marks by which lists are written by default. -/
def defaultMarks : ListMarks where
  value := '='
  pair := ','
  value_ne_pair := by decide

/-- No white space, or a blank. -/
def blankOrNone (blank : Bool) : Padding defaultMarks where
  chars := if blank then [' '] else []
  isBlank_chars := by
    cases blank with
    | false => exact List.forall_mem_nil _
    | true => exact List.forall_mem_singleton.2 (by decide)
  value_not_mem := by cases blank <;> decide
  pair_not_mem := by cases blank <;> decide

namespace PlainParam

/-- The parameter in a list, with a blank in front of it unless it is the first one. -/
def inList (blank : Bool) (p : PlainParam) : ListedParam defaultMarks where
  name := p.name
  value := p.value
  name_trimmed := p.name_trimmed
  value_trimmed := p.value_trimmed
  value_not_mem_name := p.equals_not_mem_name
  pair_not_mem_name := p.name_free ',' List.mem_cons_self
  pair_not_mem_value := p.value_free ',' List.mem_cons_self
  beforeName := blankOrNone blank
  afterName := blankOrNone false
  beforeValue := blankOrNone false
  afterValue := blankOrNone false

theorem written_inList_false (p : PlainParam) : (p.inList false).written = p.written := by
  simp [ListedParam.written, ListedParam.front, ListedParam.back, inList, blankOrNone, written, defaultMarks]

theorem written_inList_true (p : PlainParam) : (p.inList true).written = ' ' :: p.written := by
  simp [ListedParam.written, ListedParam.front, ListedParam.back, inList, blankOrNone, written, defaultMarks]

/-- A list has commas in between, and a blank in front of each parameter but the first. -/
theorem writtenList_eq (p : PlainParam) (ps : List PlainParam) : String.ofList (writtenList (p :: ps)) =
    defaultMarks.listed ((p.inList false :: ps.map (inList true)).map ListedParam.written) := by
  have hmore : (ps.map written).map ([' '] ++ ·) = (ps.map (inList true)).map ListedParam.written := by
    rw [List.map_map, List.map_map]
    exact List.map_congr_left fun q _ => q.written_inList_true.symm
  rw [writtenList, List.map_cons, join_separator_cons, hmore, List.map_cons, p.written_inList_false]
  rfl

end PlainParam

/-- **A list of parameters is read back as it was written.** -/
theorem ParamSyntax.read_writtenList (ps : List PlainParam) :
    defaultParamSyntax.read (String.ofList (PlainParam.writtenList ps)) = ps.map PlainParam.param := by
  have hsyntax : defaultParamSyntax = defaultMarks.paramSyntax := by decide
  cases ps with
  | nil => rfl
  | cons p ps =>
    rw [p.writtenList_eq, hsyntax, ListMarks.read_listed_written, List.map_cons, List.map_cons, List.map_map]
    rfl

end TraceDiagram
