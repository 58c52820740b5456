import TraceDiagram.Proofs.Toml.Texts
import TraceDiagram.Toml.Reader

/-! # Lines of configuration files

Every line is read back from the form in which it is written: a heading as its path, a setting as its key and
value.

* **`Simple`** the values that are texts, truth values or lists of texts; **`value_written`** reads such a
  value back.
* **`keyPath_append`** reads keys with dots in between.
* **`line_setting`** and **`line_heading`** read a line back.
* **`ReadAs`** what a stretch of a file is read as, line by line; **`allLines_of_readAs`** a whole file. -/

namespace TraceDiagram.Toml

open TraceDiagram.Text TraceDiagram.Text.Scan

/-! ## Values -/

/-- The values that are texts, truth values or lists of texts. -/
inductive Simple : Toml → Prop where
  /-- A text. -/
  | text (s : String) : Simple (.text s)
  /-- A truth value. -/
  | flag (b : Bool) : Simple (.flag b)
  /-- A list of texts. -/
  | texts (ts : List String) : Simple (.list (ts.map .text))

/-- A text begins with a quote. -/
theorem exists_writtenText_eq_cons (s : String) : ∃ c cs, writtenText s = c :: cs ∧ c ∈ ['"', '\''] := by
  rw [writtenText]
  cases QuoteStyle.ofText s.toList with
  | basic => exact ⟨_, _, rfl, by decide⟩
  | literal => exact ⟨_, _, rfl, by decide⟩
  | longBasic => exact ⟨_, _, rfl, by decide⟩
  | longLiteral => exact ⟨_, _, rfl, by decide⟩

/-- What begins with a text does not begin with a blank, a line end or a comment. -/
theorem startsWithout_writtenText (s : String) (rest : List Char) :
    StartsWithout [' ', '\t', '\n', '\r', '#'] (writtenText s ++ rest) := by
  obtain ⟨c, cs, hs, hc⟩ := exists_writtenText_eq_cons s
  intro d hd hmem
  rw [hs] at hd
  obtain rfl : c = d := by simpa using hd
  simp only [List.mem_cons, List.not_mem_nil, or_false] at hc hmem
  rcases hc with rfl | rfl <;> simp at hmem

/-- A list begins with a bracket. -/
theorem exists_written_list_eq_cons (ts : List String) :
    ∃ cs, written (.list (ts.map .text)) = '[' :: cs := by
  rcases ts with _ | ⟨t, _ | ⟨u, ts⟩⟩
  · exact ⟨_, rfl⟩
  · exact ⟨_, rfl⟩
  · exact ⟨_, rfl⟩

section Values

variable {cs rest : List Char}

/-- A value that holds no others may stand at any depth. -/
theorem value_of_scalar {v : Toml} (h : scalar cs = some (v, rest)) (depth : Nat) :
    value depth cs = some (v, rest) := by
  cases depth with
  | zero => exact h
  | succ depth => exact firstOf_of_some h

/-- A text is read back as a value. -/
theorem value_text (s : String) (hrest : StartsWithout ['"', '\''] rest) (depth : Nat) :
    value depth (writtenText s ++ rest) = some (.text s, rest) :=
  value_of_scalar (firstOf_of_some (map_of_some (quotedText_writtenText s hrest) _)) depth

/-- A truth value is read back. -/
theorem value_flag (b : Bool) (rest : List Char) (depth : Nat) :
    value depth (written (.flag b) ++ rest) = some (.flag b, rest) := by
  refine value_of_scalar ?_ depth
  cases b <;> rfl

/-- The end of a list is no value. -/
theorem value_bracket (depth : Nat) (cs : List Char) : value depth (']' :: cs) = none := by
  cases depth with
  | zero => rfl
  | succ depth =>
    have hscalar : scalar (']' :: cs) = none := rfl
    have hlist : listOf (value depth) (']' :: cs) = none := bind_of_none (char_of_neg (by decide)) _
    have htable : bracedTable (value depth) (']' :: cs) = none := bind_of_none (char_of_neg (by decide)) _
    rw [value, firstOf_of_none hscalar, firstOf_of_none (map_of_none hlist _), firstOf_singleton, htable]

/-! ### Lists -/

/-- What a filler is made of. -/
def fillerStep : Scan Unit := firstOf [char isGap *> pure (), newline, comment *> newline]

/-- Blanks and line ends in a list are passed over. -/
theorem filler_append {blanks : List Char} (hblanks : ∀ c ∈ blanks, c = ' ' ∨ c = '\n')
    (hcs : StartsWithout [' ', '\t', '\n', '\r', '#'] cs) : filler (blanks ++ cs) = some ((), cs) := by
  have hend : fillerStep cs = none := by
    cases cs with
    | nil => rfl
    | cons c cs =>
      have hc := hcs c rfl
      simp only [List.mem_cons, List.not_mem_nil, or_false, not_or] at hc
      have hnewline : newline (c :: cs) = none := newline_eq_none fun d hd => by
        obtain rfl : c = d := by simpa using hd
        simp [hc]
      have hgap : isGap c = false := by simp [isGap, hc]
      have hcomment : comment (c :: cs) = none :=
        seqRight_of_none (seqRight_of_none (char_of_neg (by simpa using hc.2.2.2.2)) _) _
      rw [fillerStep, firstOf_of_none (seqRight_of_none (char_of_neg hgap) _), firstOf_of_none hnewline,
        firstOf_singleton, seqRight_of_none hcomment]
  have hsteps : ∃ us, Repeats fillerStep us (blanks ++ cs) cs := by
    induction blanks with
    | nil => exact ⟨[], .stop hend⟩
    | cons c blanks ih =>
      rw [List.forall_mem_cons] at hblanks
      obtain ⟨us, hus⟩ := ih hblanks.2
      refine ⟨() :: us, ?_⟩
      change Repeats fillerStep _ ([c] ++ (blanks ++ cs)) cs
      refine .next (List.cons_ne_nil _ _) ?_ hus
      rcases hblanks.1 with rfl | rfl
      · exact firstOf_of_some (seqRight_of_some (char_of_pos (by decide)) _)
      · exact (firstOf_of_none (seqRight_of_none (char_of_neg (by decide)) _) _).trans
          (firstOf_of_some (newline_cons _))
  obtain ⟨us, hus⟩ := hsteps
  exact (bind_of_some (many_of_repeats hus) _).trans rfl

/-- An item of a list, with what stands around it. -/
def listItem (depth : Nat) : Scan Toml := filler *> value depth <* filler

/-- A text in a list is read up to what follows it. -/
theorem listItem_text (blanks : List Char) (hblanks : ∀ c ∈ blanks, c = ' ' ∨ c = '\n') (s : String)
    (hrest : StartsWithout [' ', '\t', '\n', '\r', '#', '"', '\''] rest) (depth : Nat) :
    listItem depth (blanks ++ (writtenText s ++ rest)) = some (.text s, rest) := by
  refine seqLeft_of_some ?_ (filler_append (List.forall_mem_nil _) (hrest.mono (by simp)))
  rw [seqRight_of_some (filler_append hblanks (startsWithout_writtenText s rest)), value_text s (hrest.mono (by simp)), List.nil_append]

/-- The end of a list is no item. -/
theorem listItem_bracket (blanks : List Char) (hblanks : ∀ c ∈ blanks, c = ' ' ∨ c = '\n') (depth : Nat)
    (cs : List Char) : listItem depth (blanks ++ ']' :: cs) = none := by
  have hstart : StartsWithout [' ', '\t', '\n', '\r', '#'] (']' :: cs) := by simp [StartsWithout]
  refine seqLeft_of_none ?_ _
  rw [seqRight_of_some (filler_append hblanks hstart), value_bracket]

/-- What stands in front of an item on a line of its own. -/
def itemIndent : List Char := ['\n', ' ', ' ', ' ', ' ']

theorem writtenItems_cons (t : String) (ts : List String) :
    writtenItems ((t :: ts).map .text) =
      itemIndent ++ (writtenText t ++ ',' :: writtenItems (ts.map .text)) := rfl

/-- The items behind the first, each on a line of its own, are read one by one. -/
theorem repeats_writtenItems (ts : List String) (depth : Nat) (rest : List Char) :
    Repeats (exactly "," *> listItem depth) (ts.map .text)
      (',' :: (writtenItems (ts.map .text) ++ '\n' :: ']' :: rest)) (',' :: '\n' :: ']' :: rest) := by
  induction ts with
  | nil =>
    exact .stop ((seqRight_of_some (exactly_append "," _) _).trans
      (listItem_bracket ['\n'] (by simp) depth rest))
  | cons t ts ih =>
    have hsplit : ',' :: (writtenItems ((t :: ts).map .text) ++ '\n' :: ']' :: rest) =
        (',' :: (itemIndent ++ writtenText t)) ++
          ',' :: (writtenItems (ts.map .text) ++ '\n' :: ']' :: rest) := by
      simp only [writtenItems_cons, List.append_assoc, List.cons_append]
    rw [hsplit]
    refine .next (List.cons_ne_nil _ _) ?_ ih
    rw [List.cons_append, List.append_assoc]
    exact (seqRight_of_some (exactly_append "," _) _).trans
      (listItem_text itemIndent (by simp [itemIndent]) t (by simp [StartsWithout]) depth)

/-- What a list is made of behind its first bracket: the items, the mark that may follow the last one, and the
other bracket. -/
theorem listOf_of_items {depth : Nat} {items : List Toml} {mid : List Char} {found : Option Unit}
    (hitems : sepBy (exactly ",") (listItem depth) cs = some (items, mid))
    (hmark : optional (exactly ",") mid = some (found, rest)) (blanks : List Char) {rest' : List Char}
    (hrest : rest = blanks ++ ']' :: rest') (hblanks : ∀ c ∈ blanks, c = ' ' ∨ c = '\n') :
    listOf (value depth) ('[' :: cs) = some (items, rest') := by
  have hstart : StartsWithout [' ', '\t', '\n', '\r', '#'] (']' :: rest') := by simp [StartsWithout]
  subst hrest
  rw [listOf, bind_of_some (char_of_pos (by decide))]
  refine (bind_of_some (orElse_of_some (seqLeft_of_some hitems hmark)) _).trans ?_
  rw [bind_of_some (filler_append hblanks hstart), bind_of_some (char_of_pos (by decide)), pure_eq]

/-- A list of texts is read back. -/
theorem listOf_written (ts : List String) (depth : Nat) (rest : List Char) :
    listOf (value depth) (written (.list (ts.map .text)) ++ rest) = some (ts.map .text, rest) := by
  rcases ts with _ | ⟨t, _ | ⟨u, ts⟩⟩
  · have hempty : sepBy (exactly ",") (listItem depth) (']' :: rest) = none :=
      bind_of_none (listItem_bracket [] (List.forall_mem_nil _) depth rest) _
    have hstart : StartsWithout [' ', '\t', '\n', '\r', '#'] (']' :: rest) := by simp [StartsWithout]
    refine (bind_of_some (char_of_pos (by decide)) _).trans ?_
    refine (bind_of_some ((orElse_of_none (seqLeft_of_none hempty _) _).trans (pure_eq _ _)) _).trans ?_
    refine (bind_of_some (filler_append (List.forall_mem_nil _) hstart) _).trans ?_
    exact bind_of_some (char_of_pos (by decide)) _
  · have hmark : exactly "," (']' :: rest) = none := exactly_of_ne ⟨',', rfl, by decide⟩
    have hitem : listItem depth (writtenText t ++ ']' :: rest) = some (.text t, ']' :: rest) :=
      listItem_text [] (List.forall_mem_nil _) t (by simp [StartsWithout]) depth
    have hform : written (.list ([t].map .text)) ++ rest = '[' :: (writtenText t ++ ']' :: rest) := by
      simp [written]
    rw [hform]
    refine listOf_of_items ((bind_of_some hitem _).trans ?_) (optional_of_none hmark) [] rfl
      (List.forall_mem_nil _)
    rw [bind_of_some (many_of_none (seqRight_of_none hmark _)), pure_eq]
    rfl
  · have hform : written (.list ((t :: u :: ts).map .text)) ++ rest = '[' :: (itemIndent ++
        (writtenText t ++ ',' :: (writtenItems ((u :: ts).map .text) ++ '\n' :: ']' :: rest))) := by
      change '[' :: writtenItems ((t :: u :: ts).map .text) ++ ['\n', ']'] ++ rest = _
      simp only [writtenItems_cons t, List.append_assoc, List.cons_append, List.nil_append]
    have hitem : ∀ more, listItem depth (itemIndent ++ (writtenText t ++ ',' :: more)) =
        some (.text t, ',' :: more) := fun more =>
      listItem_text itemIndent (by simp [itemIndent]) t (by simp [StartsWithout]) depth
    rw [hform]
    refine listOf_of_items ((bind_of_some (hitem _) _).trans ?_)
      (optional_of_some (exactly_append "," _)) ['\n'] rfl (by simp)
    rw [bind_of_some (many_of_repeats (repeats_writtenItems (u :: ts) depth rest)), pure_eq]
    rfl

/-- **Values are read back** from the form in which they are written. -/
theorem value_written {v : Toml} (hv : Simple v) (hrest : StartsWithout ['"', '\''] rest) :
    value nestingLimit (written v ++ rest) = some (v, rest) := by
  cases hv with
  | text s => exact value_text s hrest _
  | flag b => exact value_flag b rest _
  | texts ts =>
    have hscalar : scalar (written (.list (ts.map .text)) ++ rest) = none := by
      obtain ⟨cs, hcs⟩ := exists_written_list_eq_cons ts
      rw [hcs]
      rfl
    rw [nestingLimit, value, firstOf_of_none hscalar]
    exact firstOf_of_some (map_of_some (listOf_written ts _ rest) _)

end Values

/-! ## Keys -/

/-- Whether a key may begin with `c`. -/
def isKeyStart (c : Char) : Bool := isKeyChar c || c = '"' || c = '\''

/-- A key begins with a character of a key without quotes or with a quote. -/
theorem exists_writtenKey_eq_cons (s : String) : ∃ c cs, writtenKey s = c :: cs ∧ isKeyStart c = true := by
  obtain ⟨c, cs, -, hkey, hform⟩ | hform | ⟨-, hform⟩ := writtenKey_cases s
  · have hc : isKeyChar c = true := hkey c List.mem_cons_self
    exact ⟨c, cs, hform, by simp [isKeyStart, hc]⟩
  · exact ⟨_, _, hform, by decide⟩
  · exact ⟨_, _, hform, by decide⟩

/-- What begins with a key does not begin with a mark. -/
theorem startsWithout_writtenKey {marks : List Char} (hmarks : marks.any isKeyStart = false) (s : String)
    (rest : List Char) : StartsWithout marks (writtenKey s ++ rest) := by
  obtain ⟨c, cs, hs, hc⟩ := exists_writtenKey_eq_cons s
  intro d hd hmem
  rw [hs] at hd
  obtain rfl : c = d := by simpa using hd
  exact List.any_eq_false.1 hmarks c hmem hc

/-- Keys with dots in between: the first, and each of the others behind a dot. -/
theorem join_writtenKey (k : String) (ks : List String) :
    join ['.'] ((k :: ks).map writtenKey) = writtenKey k ++ ks.flatMap fun k => '.' :: writtenKey k := by
  induction ks generalizing k with
  | nil => simp [join]
  | cons l ks ih =>
    have hmore := ih l
    rw [List.map_cons] at hmore
    rw [List.map_cons, List.map_cons, join, hmore]
    · simp
    · simp

/-- A blank is skipped. -/
theorem gap_eq (cs : List Char) : gap cs = some ((), cs.dropWhile isGap) := rfl

section Keys

variable {cs rest : List Char}

/-- Where no blank stands, none is skipped. -/
theorem dropWhile_isGap_eq (h : StartsWithout [' ', '\t'] cs) : cs.dropWhile isGap = cs := by
  cases cs with
  | nil => rfl
  | cons c cs =>
    have hc := h c rfl
    simp only [List.mem_cons, List.not_mem_nil, or_false, not_or] at hc
    exact List.dropWhile_cons_of_neg (by simp [isGap, hc])

/-- A key with the blanks around it. -/
def pathKey : Scan String := gap *> key <* gap

theorem pathKey_writtenKey (k : String) (hrest : ∀ c ∈ rest.head?, isKeyChar c = false) :
    pathKey (writtenKey k ++ rest) = some (k, rest.dropWhile isGap) := by
  refine seqLeft_of_some ?_ (gap_eq rest)
  rw [seqRight_of_some (gap_eq _), dropWhile_isGap_eq (startsWithout_writtenKey (by decide) k rest),
    key_writtenKey k hrest]

/-- The keys behind the first are read one by one. -/
theorem repeats_pathKeys (ks : List String) (hkey : ∀ c ∈ rest.head?, isKeyChar c = false)
    (hdot : StartsWithout ['.'] (rest.dropWhile isGap)) :
    Repeats (exactly "." *> pathKey) ks
      (((ks.flatMap fun k => '.' :: writtenKey k) ++ rest).dropWhile isGap) (rest.dropWhile isGap) := by
  induction ks with
  | nil => exact .stop (seqRight_of_none (exactly_of_startsWithout (c := '.') rfl hdot) _)
  | cons k ks ih =>
    -- what follows a key is not part of it, be it another dot or the text behind the path
    have hmore : ∀ c ∈ ((ks.flatMap fun k => '.' :: writtenKey k) ++ rest).head?, isKeyChar c = false := by
      cases ks with
      | nil => exact hkey
      | cons l ks => simp; decide
    have hsplit : (((k :: ks).flatMap fun k => '.' :: writtenKey k) ++ rest).dropWhile isGap =
        ('.' :: (writtenKey k ++ ((ks.flatMap fun k => '.' :: writtenKey k) ++ rest).takeWhile isGap)) ++
          ((ks.flatMap fun k => '.' :: writtenKey k) ++ rest).dropWhile isGap := by
      rw [List.flatMap_cons, List.cons_append, List.cons_append, List.cons_append, List.append_assoc,
        List.append_assoc, List.takeWhile_append_dropWhile, List.dropWhile_cons_of_neg (by decide)]
    rw [hsplit]
    refine .next (List.cons_ne_nil _ _) ?_ ih
    rw [List.cons_append, List.append_assoc, List.takeWhile_append_dropWhile]
    exact (seqRight_of_some (exactly_append "." _) _).trans (pathKey_writtenKey k hmore)

/-- Keys with dots in between are read back, up to what cannot be part of a key. -/
theorem keyPath_append {path : List String} {k : String} (hlength : path.length < nestingLimit)
    (hkey : ∀ c ∈ rest.head?, isKeyChar c = false) (hdot : StartsWithout ['.'] (rest.dropWhile isGap)) :
    keyPath (join ['.'] ((path ++ [k]).map writtenKey) ++ rest) =
      some ((path, k), rest.dropWhile isGap) := by
  obtain ⟨first, others, hpath⟩ : ∃ first others, path ++ [k] = first :: others :=
    List.exists_cons_of_ne_nil (by simp)
  have hmore : ∀ c ∈ ((others.flatMap fun k => '.' :: writtenKey k) ++ rest).head?, isKeyChar c = false := by
    cases others with
    | nil => exact hkey
    | cons l ks => simp; decide
  have hkeys : sepBy (exactly ".") pathKey (join ['.'] ((path ++ [k]).map writtenKey) ++ rest) =
      some (path ++ [k], rest.dropWhile isGap) := by
    rw [hpath, join_writtenKey, List.append_assoc, sepBy, bind_of_some (pathKey_writtenKey first hmore),
      bind_of_some (many_of_repeats (repeats_pathKeys others hkey hdot)), pure_eq]
  have hshort : (path ++ [k]).length ≤ nestingLimit := by
    rw [List.length_append]
    exact hlength
  refine (bind_of_some hkeys _).trans ?_
  rw [if_pos hshort, pure_eq, List.dropLast_concat, List.getLastD_concat]

end Keys

/-! ## Lines -/

section OneLine

variable (rest : List Char)

/-- A value does not begin with a blank. -/
theorem startsWithout_written {v : Toml} (hv : Simple v) :
    StartsWithout [' ', '\t'] (written v ++ rest) := by
  cases hv with
  | text s =>
    rw [written]
    exact (startsWithout_writtenText s rest).mono (by simp)
  | flag b => cases b <;> simp [StartsWithout, written]
  | texts ts =>
    obtain ⟨cs, hcs⟩ := exists_written_list_eq_cons ts
    simp [StartsWithout, hcs]

/-- A key and its value are read back. -/
theorem keyed_settingLine (k : String) {v : Toml} (hv : Simple v) :
    keyed (value nestingLimit) (settingLine (k, v) ++ rest) = some (([], k, v), '\n' :: rest) := by
  have hform : settingLine (k, v) ++ rest = join ['.'] (([] ++ [k]).map writtenKey) ++
      ([' ', '=', ' '] ++ (written v ++ '\n' :: rest)) := by
    simp [settingLine, join]
  have hpath : keyPath (settingLine (k, v) ++ rest) =
      some (([], k), '=' :: ' ' :: (written v ++ '\n' :: rest)) := by
    rw [hform]
    exact keyPath_append (by decide) (by simp; decide) (by simp [StartsWithout, isGap])
  have hgap : gap (' ' :: (written v ++ '\n' :: rest)) = some ((), written v ++ '\n' :: rest) := by
    rw [gap_eq, List.dropWhile_cons_of_pos (by decide), dropWhile_isGap_eq (startsWithout_written _ hv)]
  have hvalue : value nestingLimit (written v ++ '\n' :: rest) = some (v, '\n' :: rest) :=
    value_written hv (by simp [StartsWithout])
  refine (bind_of_some hpath _).trans ?_
  refine (bind_of_some (exactly_append "=" _) _).trans ?_
  refine (bind_of_some hgap _).trans ?_
  rw [bind_of_some hvalue, pure_eq]

/-- A line that begins with no blank and ends behind its meaning, if it has one, is read as that. -/
theorem line_of_meaning {cs : List Char} {l : Option Line} (hstart : StartsWithout [' ', '\t'] cs)
    (h : optional (firstOf [itemHeading, heading, setting]) cs = some (l, '\n' :: rest)) :
    line cs = some (l, rest) := by
  have hgap : gap ('\n' :: rest) = some ((), '\n' :: rest) := rfl
  have hcomment : comment ('\n' :: rest) = none :=
    seqRight_of_none (seqRight_of_none (char_of_neg (by decide)) _) _
  rw [line, bind_of_some (gap_eq cs), dropWhile_isGap_eq hstart, bind_of_some h, bind_of_some hgap,
    bind_of_some (optional_of_none hcomment), bind_of_some (orElse_of_some (newline_cons rest)), pure_eq]

/-- An empty line has no meaning. -/
theorem line_empty : line ('\n' :: rest) = some (none, rest) := by
  have hkey : keyPath ('\n' :: rest) = none := rfl
  refine line_of_meaning rest (by simp [StartsWithout]) (optional_of_none ?_)
  rw [firstOf_of_none rfl, firstOf_of_none rfl, firstOf_singleton]
  exact bind_of_none (bind_of_none hkey _) _

/-- **A setting is read back** as its key and its value. -/
theorem line_setting (k : String) {v : Toml} (hv : Simple v) :
    line (settingLine (k, v) ++ rest) = some (some (.setting [] k v), rest) := by
  have hform : settingLine (k, v) ++ rest =
      writtenKey k ++ ([' ', '=', ' '] ++ (written v ++ '\n' :: rest)) := by
    simp [settingLine]
  have hbracket : StartsWithout ['['] (settingLine (k, v) ++ rest) := by
    rw [hform]
    exact startsWithout_writtenKey (by decide) k _
  have hitem : itemHeading (settingLine (k, v) ++ rest) = none :=
    bind_of_none (exactly_of_startsWithout (c := '[') rfl hbracket) _
  have hheading : heading (settingLine (k, v) ++ rest) = none :=
    bind_of_none (exactly_of_startsWithout (c := '[') rfl hbracket) _
  have hsetting : setting (settingLine (k, v) ++ rest) = some (.setting [] k v, '\n' :: rest) :=
    (bind_of_some (keyed_settingLine rest k hv) _).trans rfl
  have hstart : StartsWithout [' ', '\t'] (settingLine (k, v) ++ rest) := by
    rw [hform]
    exact startsWithout_writtenKey (by decide) k _
  refine line_of_meaning rest hstart (optional_of_some ?_)
  rw [firstOf_of_none hitem, firstOf_of_none hheading, firstOf_singleton, hsetting]

/-- **A heading is read back** as the path of its table. -/
theorem line_heading {path : List String} (hlength : path.length < nestingLimit) (k : String) :
    line (headingLine (path ++ [k]) ++ rest) = some (some (.heading path k), rest) := by
  have hform : headingLine (path ++ [k]) ++ rest =
      '[' :: (join ['.'] ((path ++ [k]).map writtenKey) ++ ']' :: '\n' :: rest) := by
    simp [headingLine]
  have hpath : keyPath (join ['.'] ((path ++ [k]).map writtenKey) ++ ']' :: '\n' :: rest) =
      some ((path, k), ']' :: '\n' :: rest) :=
    keyPath_append hlength (by simp; decide) (by simp [StartsWithout, isGap])
  -- one bracket is not two, as a key does not begin with one
  have hitem : itemHeading (headingLine (path ++ [k]) ++ rest) = none := by
    obtain ⟨first, others, hkeys⟩ : ∃ first others, path ++ [k] = first :: others :=
      List.exists_cons_of_ne_nil (by simp)
    have hnot : StartsWithout ['['] (join ['.'] ((path ++ [k]).map writtenKey) ++ ']' :: '\n' :: rest) := by
      rw [hkeys, join_writtenKey, List.append_assoc]
      exact startsWithout_writtenKey (by decide) first _
    refine bind_of_none (exactly_of_absent fun hfront => ?_) _
    rw [hform] at hfront
    obtain ⟨more, hmore⟩ := (List.cons_prefix_cons.1 hfront).2
    exact hnot '[' (by rw [← hmore]; rfl) List.mem_cons_self
  have hheading : heading (headingLine (path ++ [k]) ++ rest) = some (.heading path k, '\n' :: rest) := by
    rw [hform]
    refine (bind_of_some (exactly_append "[" _) _).trans ?_
    refine (bind_of_some hpath _).trans ?_
    exact (bind_of_some (exactly_append "]" _) _).trans rfl
  have hstart : StartsWithout [' ', '\t'] (headingLine (path ++ [k]) ++ rest) := by
    rw [hform]
    simp [StartsWithout]
  refine line_of_meaning rest hstart (optional_of_some ?_)
  rw [firstOf_of_none hitem, firstOf_of_some hheading]

end OneLine

/-! ## Files -/

/-- Reads a line where the text goes on. -/
def nextLine : Scan (Option Line) := notAtEnd *> line

/-- What a stretch of a file is read as, whatever follows it: the lines with a meaning. -/
def ReadAs (cs : List Char) (ls : List Line) : Prop :=
  ∃ found, found.filterMap id = ls ∧ ∀ (more : List (Option Line)) (rest fin : List Char),
    Repeats nextLine more rest fin → Repeats nextLine (found ++ more) (cs ++ rest) fin

theorem ReadAs.nil : ReadAs [] [] := ⟨[], rfl, fun _ _ _ h => h⟩

/-- Two stretches are read one after the other. -/
theorem ReadAs.append {cs cs' : List Char} {ls ls' : List Line} (h : ReadAs cs ls) (h' : ReadAs cs' ls') :
    ReadAs (cs ++ cs') (ls ++ ls') := by
  obtain ⟨found, hls, hsteps⟩ := h
  obtain ⟨found', hls', hsteps'⟩ := h'
  refine ⟨found ++ found', by rw [List.filterMap_append, hls, hls'], fun more rest fin hmore => ?_⟩
  rw [List.append_assoc, List.append_assoc]
  exact hsteps _ _ _ (hsteps' _ _ _ hmore)

/-- A line is read as what it means. -/
theorem ReadAs.of_line {cs : List Char} (hne : cs ≠ []) {l : Option Line}
    (h : ∀ rest, line (cs ++ rest) = some (l, rest)) : ReadAs cs l.toList := by
  refine ⟨[l], by cases l <;> rfl, fun more rest fin hmore => .next hne ?_ hmore⟩
  obtain ⟨c, cs, rfl⟩ := List.exists_cons_of_ne_nil hne
  exact (seqRight_of_some rfl _).trans (h rest)

/-- Settings are read back line by line. -/
theorem readAs_settings {ps : List (String × Toml)} (h : ∀ p ∈ ps, Simple p.2) :
    ReadAs (ps.flatMap settingLine) (ps.map fun p => .setting [] p.1 p.2) := by
  induction ps with
  | nil => exact .nil
  | cons p ps ih =>
    rw [List.forall_mem_cons] at h
    have hline := ReadAs.of_line (by simp [settingLine]) fun rest => line_setting rest p.1 h.1
    exact hline.append (ih h.2)

/-- A whole file is read as its lines with a meaning. -/
theorem allLines_of_readAs {cs : List Char} {ls : List Line} (h : ReadAs cs ls) :
    allLines cs = some (ls, []) := by
  obtain ⟨found, rfl, hsteps⟩ := h
  have hend : nextLine [] = none := rfl
  have hread := hsteps [] [] [] (.stop hend)
  rw [List.append_nil, List.append_nil] at hread
  refine (bind_of_some (many_of_repeats hread) _).trans ?_
  rfl

end TraceDiagram.Toml
