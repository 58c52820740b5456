import TraceDiagram.Proofs.Default.Patterns
import TraceDiagram.Proofs.Pattern.Takes

/-! # What the default patterns match

* **`isWord_eq_false_of_isBlank`** white space and word characters are disjoint, so that neither a word nor
  the white space around it can go on.
* **`Word`** a text that the pattern for words takes as a whole; **`takes_word`** and its siblings say what
  the parts of the default patterns take.
* **`captures_line`**, **`captures_methodInvoke`** and their siblings: what the groups of the patterns
  match. -/

namespace TraceDiagram

open Pattern (Node CharSet)
open Pattern.Node
open Text Unicode

/-! ## White space and words -/

/-- Of two tables whose ranges lie apart no character is in both. -/
theorem inRanges_eq_false {rs ts : List CodeRange} (h : ∀ r ∈ rs, ∀ t ∈ ts, r.2 < t.1 ∨ t.2 < r.1)
    {c : Char} (hc : inRanges rs c = true) : inRanges ts c = false := by
  rw [inRanges, List.any_eq_true] at hc
  obtain ⟨r, hr, hrc⟩ := hc
  rw [inRanges, List.any_eq_false]
  intro t ht htc
  simp only [Bool.and_eq_true, decide_eq_true_eq] at hrc htc
  rcases h r hr t ht with h | h <;> omega

/-- White space is no word character. -/
theorem isWord_eq_false_of_isBlank {c : Char} (hc : isBlank c = true) : isWord c = false := by
  rw [isWord]
  split
  · -- the tables say nothing about ASCII: the six blank characters are looked at one by one
    next hsmall =>
    have hnat : c.toNat < 128 := hsmall
    have hascii : ∀ n < 128, isBlank (Char.ofNat n) = true → isAsciiWord (Char.ofNat n) = false := by
      decide +kernel
    have hofNat : Char.ofNat c.toNat = c := Char.ofNat_toNat c
    rw [← hofNat]
    exact hascii c.toNat hnat (by rw [hofNat, hc])
  · have hapart : ∀ r ∈ blankRanges, ∀ t ∈ wordRanges, r.2 < t.1 ∨ t.2 < r.1 := by decide +kernel
    exact inRanges_eq_false hapart hc

/-! ## Parts -/

/-- A text of word characters that is not empty. -/
structure Word where
  /-- The characters. -/
  chars : List Char
  /-- There is one. -/
  ne_nil : chars ≠ []
  /-- They are all word characters. -/
  isWord : ∀ c ∈ chars, isWord c = true

/-- The word as a string. -/
def Word.text (w : Word) : String := String.ofList w.chars

/-- A text on one line in which a given mark does not occur. -/
structure Inline (mark : Char) where
  /-- The characters. -/
  chars : List Char
  /-- The mark does not occur. -/
  mark_not_mem : mark ∉ chars
  /-- The text does not go on in another line. -/
  newline_not_mem : '\n' ∉ chars

/-- The inline text as a string. -/
def Inline.text {mark : Char} (t : Inline mark) : String := String.ofList t.chars

/-- What stands in brackets in front of a line. -/
structure Stamp where
  /-- The time. -/
  time : Inline ']'
  /-- The entity that wrote the line. -/
  generator : Inline ']'
  /-- The file that the line came from. -/
  file : Inline ']'

/-- A line that has been taken apart. Some blanks may stand in front of the category and behind it. -/
structure LineParts where
  /-- What stands in brackets in front. -/
  stamp : Stamp
  /-- The white space in front of the category. -/
  gap : List Char
  /-- The category. -/
  category : Word
  /-- The white space behind the category. -/
  separator : List Char
  /-- The rest of the line. -/
  body : List Char
  /-- There is only white space in front of the category. -/
  gap_blank : ∀ c ∈ gap, isBlank c = true
  /-- There is only white space in front of the body. -/
  separator_blank : ∀ c ∈ separator, isBlank c = true

namespace LineParts

/-- The line as it is written. -/
def text (p : LineParts) : List Char :=
  '[' :: (p.stamp.time.chars ++ ']' :: '[' :: (p.stamp.generator.chars ++ ']' :: '[' ::
    (p.stamp.file.chars ++ ']' :: (p.gap ++ (p.category.chars ++ (p.separator ++ p.body))))))

/-- Neither the category nor the white space behind it can go on. -/
structure IsMaximal (p : LineParts) : Prop where
  /-- No word character follows the category. -/
  category_ends : ∀ c ∈ (p.separator ++ p.body).head?, isWord c = false
  /-- The body does not begin with white space. -/
  separator_ends : ∀ c ∈ p.body.head?, isBlank c = false

/-- The groups of a match are the parts of the line. -/
structure CapturedIn (p : LineParts) (c : Captures) : Prop where
  /-- The time. -/
  time : c.get? "time" = some p.stamp.time.text
  /-- The entity that wrote the line. -/
  generator : c.get? "generator" = some p.stamp.generator.text
  /-- The file that the line came from. -/
  file : c.get? "file" = some p.stamp.file.text
  /-- The category. -/
  category : c.get? "category" = some p.category.text
  /-- The body. -/
  body : c.get? "body" = some (String.ofList p.body)

end LineParts

/-- A line with the given stamp, category and body. -/
def Stamp.line (s : Stamp) (category : Word) (body : List Char) : List Char :=
  '[' :: (s.time.chars ++ ']' :: '[' :: (s.generator.chars ++ ']' :: '[' :: (s.file.chars ++
    ']' :: ' ' :: (category.chars ++ ' ' :: body))))

namespace DefaultPattern

variable {run rest : List Char}

theorem takes_mark (c : Char) : Takes (mark c) [c] rest [] :=
  takes_one (by rw [CharSet.mem_single, decide_eq_true_eq])

/-- A word ends in front of the first character that is no word character. -/
theorem takes_word (index : Nat) (w : Word) (hrest : ∀ c ∈ rest.head?, isWord c = false) :
    Takes (word index) w.chars rest [(index, w.chars)] := by
  have hspan : Takes (.span .word 1 none true) w.chars rest [] :=
    takes_span (List.length_pos_iff.2 w.ne_nil) w.isWord hrest
  exact hspan.group index

theorem takes_blanks {least : Nat} (hleast : least ≤ run.length) (hrun : ∀ c ∈ run, isBlank c = true)
    (hrest : ∀ c ∈ rest.head?, isBlank c = false) : Takes (blanks least) run rest [] :=
  takes_span hleast hrun hrest

/-- No word begins with white space. -/
theorem isBlank_head?_of_word {w : Word} (hw : w.chars <+: rest) :
    ∀ c ∈ rest.head?, isBlank c = false := by
  intro c hc
  obtain ⟨after, rfl⟩ := hw
  obtain ⟨d, chars, hchars⟩ := List.exists_cons_of_ne_nil w.ne_nil
  rw [hchars, List.cons_append, List.head?_cons, Option.mem_some_iff] at hc
  have hword : isWord c = true := w.isWord c (by rw [hchars, hc]; exact List.mem_cons_self)
  cases hblank : isBlank c with
  | false => rfl
  | true => rw [isWord_eq_false_of_isBlank hblank] at hword; cases hword

/-- White space ends in front of a word. -/
theorem takes_blanks_word {least : Nat} (hleast : least ≤ run.length)
    (hrun : ∀ c ∈ run, isBlank c = true) {w : Word} (hw : w.chars <+: rest) :
    Takes (blanks least) run rest [] :=
  takes_blanks hleast hrun (isBlank_head?_of_word hw)

/-- A text without a mark is taken up to the mark. -/
theorem takes_without (index : Nat) {c : Char} (hrun : c ∉ run) :
    Takes (without index c) run (c :: rest) [(index, run)] := by
  refine (takes_span (Nat.zero_le _) (fun d hd => ?_) fun d hd => ?_).group index
  · have hne : d ≠ c := fun h => hrun (h ▸ hd)
    simp [CharSet.mem, hne]
  · have heq : c = d := Option.mem_some_iff.1 hd
    simp [CharSet.mem, heq]

/-- The rest of a line is taken up to its end. -/
theorem takes_restOfLine (index : Nat) (hrun : '\n' ∉ run) :
    Takes (restOfLine index) run [] [(index, run)] := by
  refine (takes_span (Nat.zero_le _) (fun d hd => ?_) (by simp)).group index
  have hne : d ≠ '\n' := fun h => hrun (h ▸ hd)
  simp [CharSet.mem, hne]

/-- A list of parameters ends with the first closing parenthesis. -/
theorem takesAll_params (index : Nat) (hrun : ')' ∉ run) (rest : List Char) :
    TakesAll (params index) ('(' :: (run ++ ')' :: rest)) rest [(index, run)] :=
  .cons (takes_mark '(') <| .cons (takes_without index hrun) <| .cons (takes_mark ')') <| .nil rest

/-! ## Groups of a match -/

/-- The number of a named group is one more than the place of its name, as the whole match is group 0. -/
theorem idxOf?_some_name (names : List String) (name : String) :
    (none :: names.map some).idxOf? (some name) = (names.idxOf? name).map (· + 1) := by
  have hmap : (names.map some).idxOf? (some name) = names.idxOf? name := by
    induction names with
    | nil => rfl
    | cons other names ih => rw [List.map_cons, List.idxOf?_cons, List.idxOf?_cons, ih]; rfl
  rw [List.idxOf?_cons, hmap]
  rfl

/-- A pattern that is bound to the start of a text matches what its parts take. -/
theorem captures_ofParts {parts : List Node} {text : List Char} {found : List (Nat × List Char)}
    (h : TakesAll parts text rest found) (names : List String) :
    ∃ c, (ofParts parts names).captures text = some c ∧
      ∀ name, c.get? name =
        (names.idxOf? name).bind fun index => (found.lookup (index + 1)).map String.ofList := by
  obtain ⟨s, run, hmatch, hgroups⟩ := Pattern.firstMatch_anchored h
  refine ⟨⟨none :: names.map some, s⟩, ?_, fun name => ?_⟩
  · rw [Pattern.captures, ofParts, hmatch, Option.map_some]
  · simp only [Captures.get?, Captures.group?, idxOf?_some_name]
    cases names.idxOf? name with
    | none => rfl
    | some index =>
      -- group 0 is in front of the groups that the parts found
      have hlookup : found.lookup (index + 1) =
          (s.groups.lookup (index + 1)).map Pattern.Extent.text := by
        rw [← s.lookup_matched, hgroups]
        rfl
      rw [Option.bind_some, hlookup]
      rfl

/-! ## Lines -/

/-- A blank is no word character. -/
theorem isWord_head?_of_blank : ∀ c ∈ (' ' :: rest).head?, isWord c = false := by
  intro c hc
  rw [← Option.mem_some_iff.1 hc]
  decide

/-- **The pattern for lines** takes a line apart into parts that cannot go on. -/
theorem captures_parts {p : LineParts} (hp : p.IsMaximal) (hbody : '\n' ∉ p.body) :
    ∃ c, line.captures p.text = some c ∧ p.CapturedIn c := by
  have hrest : TakesAll [restOfLine 5, .check .textEnd] p.body [] [(5, p.body)] := by
    simpa using TakesAll.cons (takes_restOfLine 5 hbody) (.cons takes_textEnd (.nil []))
  -- part by part: each takes its piece of the line because of what stands behind that piece
  have h := TakesAll.cons (takes_mark '[') <| .cons (takes_without 1 p.stamp.time.mark_not_mem) <|
    .cons (takes_mark ']') <| .cons (takes_mark '[') <|
    .cons (takes_without 2 p.stamp.generator.mark_not_mem) <| .cons (takes_mark ']') <|
    .cons (takes_mark '[') <| .cons (takes_without 3 p.stamp.file.mark_not_mem) <| .cons (takes_mark ']') <|
    .cons (takes_blanks_word (Nat.zero_le _) p.gap_blank (List.prefix_append p.category.chars _)) <|
    .cons (takes_word 4 p.category hp.category_ends) <|
    .cons (takes_blanks (Nat.zero_le _) p.separator_blank hp.separator_ends) hrest
  obtain ⟨c, hc, hget⟩ := captures_ofParts (by simpa using h) ["time", "generator", "file", "category", "body"]
  refine ⟨c, by simpa [line, LineParts.text] using hc, ?_, ?_, ?_, ?_, ?_⟩
  all_goals simp [hget, List.idxOf?_cons, List.lookup_cons, Word.text, Inline.text]

/-- A line with single blanks is taken apart into what it was put together from. -/
theorem captures_line (s : Stamp) (category : Word) {body : List Char} (hbody : '\n' ∉ body)
    (hhead : ∀ c ∈ body.head?, isBlank c = false) :
    ∃ c, line.captures (s.line category body) = some c ∧
      TraceReader.fieldsOf c = ⟨category.text, s.generator.text, String.ofList body⟩ ∧
      TraceReader.remarkOf c = ⟨s.time.text, s.file.text, s.generator.text⟩ := by
  have hblank : ∀ c ∈ [' '], isBlank c = true := List.forall_mem_singleton.2 (by decide)
  let p : LineParts := ⟨s, [' '], category, [' '], body, hblank, hblank⟩
  obtain ⟨c, hc, hp⟩ := captures_parts (p := p) ⟨isWord_head?_of_blank, hhead⟩ hbody
  refine ⟨c, hc, ?_, ?_⟩
  · simp [p, TraceReader.fieldsOf, TraceReader.field, hp.category, hp.generator, hp.body]
  · simp [p, TraceReader.remarkOf, TraceReader.field, hp.time, hp.file, hp.generator]

/-! ## Calls and returns -/

theorem isWord_colon : isWord ':' = false := by decide

theorem isWord_parenthesis : isWord '(' = false := by decide

/-- The pattern for calls of methods takes the object, the method and its arguments apart. -/
theorem captures_methodInvoke (object method : Word) (arguments : Inline ')') :
    ∃ c, methodInvoke.captures (object.chars ++ ':' :: ':' :: (method.chars ++
        '(' :: (arguments.chars ++ [')']))) = some c ∧
      c.get? "called" = some object.text ∧ c.get? "method" = some method.text ∧
      c.get? "params" = some arguments.text := by
  have h := TakesAll.cons (takes_word 1 object (by simp [isWord_colon])) <|
    .cons (takes_mark ':') <| .cons (takes_mark ':') <|
    .cons (takes_word 2 method (by simp [isWord_parenthesis])) <|
    .cons (takes_blanks (Nat.zero_le _) (List.forall_mem_nil _) (by simp; decide)) <|
    takesAll_params 3 arguments.mark_not_mem []
  obtain ⟨c, hc, hget⟩ := captures_ofParts h ["called", "method", "params"]
  refine ⟨c, hc, ?_, ?_, ?_⟩
  · simp [hget, List.idxOf?_cons, List.lookup_cons, Word.text]
  · simp [hget, List.idxOf?_cons, List.lookup_cons, Word.text]
  · simp [hget, List.idxOf?_cons, List.lookup_cons, Inline.text]

/-- The pattern for calls of functions takes the function and its arguments apart. -/
theorem captures_functionInvoke (method : Word) (arguments : Inline ')') :
    ∃ c, functionInvoke.captures (method.chars ++ '(' :: (arguments.chars ++ [')'])) = some c ∧
      c.get? "method" = some method.text ∧ c.get? "params" = some arguments.text := by
  have h := TakesAll.cons (takes_word 1 method (by simp [isWord_parenthesis])) <|
    .cons (takes_blanks (Nat.zero_le _) (List.forall_mem_nil _) (by simp; decide)) <|
    takesAll_params 2 arguments.mark_not_mem []
  obtain ⟨c, hc, hget⟩ := captures_ofParts h ["method", "params"]
  refine ⟨c, hc, ?_, ?_⟩
  · simp [hget, List.idxOf?_cons, List.lookup_cons, Word.text]
  · simp [hget, List.idxOf?_cons, List.lookup_cons, Inline.text]

/-- A return begins with a keyword and white space in front of a word. -/
theorem takesAll_from {parts : List Node} {found : List (Nat × List Char)} {text : List Char} {w : Word}
    (hw : w.chars <+: text) (h : TakesAll parts text rest found) :
    TakesAll ([mark 'f', mark 'r', mark 'o', mark 'm', blanks 1] ++ parts)
      ('f' :: 'r' :: 'o' :: 'm' :: ' ' :: text) rest found := by
  have hblank : ∀ c ∈ [' '], isBlank c = true := List.forall_mem_singleton.2 (by decide)
  have hall := TakesAll.cons (takes_mark 'f') <| .cons (takes_mark 'r') <| .cons (takes_mark 'o') <|
    .cons (takes_mark 'm') <| .cons (takes_blanks_word (Nat.le_refl 1) hblank hw) h
  simpa using hall

/-- The pattern for returns takes the object and its method apart. -/
theorem captures_methodReturn_method (object method : Word) :
    ∃ c, methodReturn.captures ('f' :: 'r' :: 'o' :: 'm' :: ' ' :: (object.chars ++ ':' :: ':' ::
        (method.chars ++ ['(', ')']))) = some c ∧
      c.get? "called" = some object.text ∧ c.get? "method" = some method.text := by
  -- the part with the object may be missing, and is preferred where it fits
  have hscope : TakesAll [word 1, mark ':', mark ':']
      ((object.chars ++ [':', ':']) ++ (method.chars ++ ['(', ')'])) (method.chars ++ ['(', ')'])
      [(1, object.chars)] := by
    rw [List.append_assoc]
    exact .cons (takes_word 1 object (by simp [isWord_colon])) <| .cons (takes_mark ':') <|
      .cons (takes_mark ':') <| .nil _
  have hword : Takes (word 2) method.chars ['(', ')'] [(2, method.chars)] :=
    takes_word 2 method (by simp [isWord_parenthesis])
  have hfront : object.chars <+: (object.chars ++ [':', ':']) ++ (method.chars ++ ['(', ')']) := by
    rw [List.append_assoc]
    exact List.prefix_append _ _
  have h := takesAll_from hfront (.cons hscope.sequence.optional (.cons hword (.nil _)))
  obtain ⟨c, hc, hget⟩ := captures_ofParts h ["called", "method"]
  rw [List.append_assoc] at hc
  exact ⟨c, hc, by simp [hget, List.idxOf?_cons, List.lookup_cons, Word.text],
    by simp [hget, List.idxOf?_cons, List.lookup_cons, Word.text]⟩

/-- The pattern for returns finds no object in front of a function. -/
theorem captures_methodReturn_function (method : Word) :
    ∃ c, methodReturn.captures ('f' :: 'r' :: 'o' :: 'm' :: ' ' :: method.chars) = some c ∧
      c.get? "called" = none ∧ c.get? "method" = some method.text := by
  -- a word has no marks in it, so the part with the object does not match
  have hmark : ∀ c ∈ method.chars, (CharSet.single ':').mem c = false := by
    intro c hc
    rw [CharSet.mem_single, decide_eq_false_iff_not]
    rintro rfl
    have hword : isWord ':' = true := method.isWord ':' hc
    rw [isWord_colon] at hword
    cases hword
  have hscope : Fails (.sequence [word 1, mark ':', mark ':']) (method.chars ++ []) := by
    rw [List.append_nil]
    exact (fails_of_not_mem (word 1) hmark).seq (mark ':')
  have hword : Takes (word 2) method.chars [] [(2, method.chars)] := takes_word 2 method (by simp)
  have htail := TakesAll.cons hscope.optional (TakesAll.cons hword (.nil []))
  have h := takesAll_from (List.prefix_append method.chars []) htail
  obtain ⟨c, hc, hget⟩ := captures_ofParts h ["called", "method"]
  rw [List.append_nil] at hc
  exact ⟨c, hc, by simp [hget, List.idxOf?_cons, List.lookup_cons],
    by simp [hget, List.idxOf?_cons, List.lookup_cons, Word.text]⟩

/-! ## Messages, creations, deletions and timers -/

/-- A list of parameters that may be missing takes one that is there. -/
theorem takes_optionalParams (index : Nat) (arguments : Inline ')') :
    Takes (optionally (params index)) ('(' :: (arguments.chars ++ [')'])) rest
      [(index, arguments.chars)] := by
  have hall : TakesAll (params index) (('(' :: (arguments.chars ++ [')'])) ++ rest) rest
      [(index, arguments.chars)] := by
    simpa using takesAll_params index arguments.mark_not_mem rest
  exact hall.sequence.optional

/-- Given characters are taken one by one. -/
theorem takesAll_marks {parts : List Node} {text : List Char} {found : List (Nat × List Char)}
    (h : TakesAll parts text rest found) (cs : List Char) :
    TakesAll (cs.map mark ++ parts) (cs ++ text) rest found := by
  induction cs with
  | nil => exact h
  | cons c cs ih => simpa using TakesAll.cons (takes_mark c) ih

/-- The pattern for messages takes the message, its parameters and the entity at the other end apart. -/
theorem captures_message {keyword : List Char} (hkeyword : ∀ c ∈ keyword.head?, isBlank c = false)
    (hne : keyword ≠ []) {peer : String} (hpeer : peer ∉ ["message", "params"]) (name entity : Word)
    (arguments : Inline ')') :
    ∃ c, (message keyword peer).captures (name.chars ++ '(' :: (arguments.chars ++
        ')' :: ' ' :: (keyword ++ ' ' :: entity.chars))) = some c ∧
      c.get? "message" = some name.text ∧ c.get? "params" = some arguments.text ∧
      c.get? peer = some entity.text := by
  have hblank : ∀ c ∈ [' '], isBlank c = true := List.forall_mem_singleton.2 (by decide)
  have hhead : ∀ c ∈ (keyword ++ ' ' :: entity.chars).head?, isBlank c = false := by
    rwa [List.head?_append_of_ne_nil _ hne]
  -- the white space in front of the keyword is left for the part that needs it
  have hentity := TakesAll.cons (takes_blanks_word (Nat.le_refl 1) hblank (List.prefix_append entity.chars []))
    (.cons (takes_word 3 entity (by simp)) (.nil []))
  have h := TakesAll.cons (takes_word 1 name (by simp [isWord_parenthesis])) <|
    .cons (takes_blanks (Nat.zero_le _) (List.forall_mem_nil _) (by simp; decide)) <|
    .cons (takes_optionalParams 2 arguments) <|
    .cons (takes_blanks (Nat.le_refl 1) hblank hhead) <| takesAll_marks (by simpa using hentity) keyword
  obtain ⟨c, hc, hget⟩ := captures_ofParts (by simpa using h) ["message", "params", peer]
  simp only [List.mem_cons, List.not_mem_nil, or_false, not_or] at hpeer
  refine ⟨c, by simpa [message] using hc, ?_, ?_, ?_⟩
  · simp [hget, List.idxOf?_cons, List.lookup_cons, Word.text]
  · simp [hget, List.idxOf?_cons, List.lookup_cons, Inline.text]
  · simp [hget, List.idxOf?_cons, List.lookup_cons, Word.text, hpeer, Ne.symm]

/-- The pattern for creations takes the entity and its parameters apart. -/
theorem captures_create (entity : Word) (arguments : Inline ')') :
    ∃ c, create.captures (entity.chars ++ '(' :: (arguments.chars ++ [')'])) = some c ∧
      c.get? "created" = some entity.text ∧ c.get? "params" = some arguments.text := by
  have h := TakesAll.cons (takes_word 1 entity (by simp [isWord_parenthesis])) <|
    .cons (takes_blanks (Nat.zero_le _) (List.forall_mem_nil _) (by simp; decide)) <|
    .cons (takes_optionalParams 2 arguments) <| .nil []
  obtain ⟨c, hc, hget⟩ := captures_ofParts h ["created", "params"]
  refine ⟨c, by simpa [create] using hc, ?_, ?_⟩
  · simp [hget, List.idxOf?_cons, List.lookup_cons, Word.text]
  · simp [hget, List.idxOf?_cons, List.lookup_cons, Inline.text]

/-- A pattern for a word takes it as a whole. -/
theorem captures_word (name : String) (w : Word) :
    ∃ c, (ofParts [word 1] [name]).captures w.chars = some c ∧ c.get? name = some w.text := by
  obtain ⟨c, hc, hget⟩ := captures_ofParts (.cons (takes_word 1 w (by simp)) (.nil [])) [name]
  refine ⟨c, by simpa using hc, ?_⟩
  simp [hget, List.idxOf?_cons, List.lookup_cons, Word.text]

end DefaultPattern

end TraceDiagram
