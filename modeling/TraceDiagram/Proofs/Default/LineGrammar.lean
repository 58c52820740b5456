import Mathlib.Data.List.TakeWhile
import TraceDiagram.Proofs.Default.Matching
import TraceDiagram.Proofs.Pattern.Spelling

/-! # The grammar of lines

The default pattern for lines matches exactly the lines that are made of a stamp, a category and a body, and
it takes the longest category and the longest white space behind it.

* **`LineParts.settled`** the parts of a line, put right so that none of them can go on.
* **`LineParts.eq_of_text_eq`** a line can be taken apart in one such way only.
* **`exists_parts_of_captures`** a line that is matched is made of parts.
* **`line_grammar`** the grammar, and what is captured. -/

namespace TraceDiagram

open Text Unicode

/-! ## Runs of characters -/

section Runs

variable {p : Char → Bool} {run other rest after : List Char}

/-- A run of characters of a kind ends where the text says. -/
theorem span_unique (hrun : ∀ c ∈ run, p c = true) (hother : ∀ c ∈ other, p c = true)
    (hrest : ∀ c ∈ rest.head?, p c = false) (hafter : ∀ c ∈ after.head?, p c = false)
    (h : run ++ rest = other ++ after) : run = other ∧ rest = after := by
  have hnone : ∀ {rest : List Char}, (∀ c ∈ rest.head?, p c = false) → rest.takeWhile p = [] := by
    intro rest hrest
    cases rest with
    | nil => rfl
    | cons c rest => simp [hrest c rfl]
  have htake := congrArg (List.takeWhile p) h
  rw [List.takeWhile_append_of_pos hrun, List.takeWhile_append_of_pos hother, hnone hrest, hnone hafter,
    List.append_nil, List.append_nil] at htake
  subst htake
  exact ⟨rfl, List.append_cancel_left h⟩

/-- What is left of a text once all characters of a kind have been taken does not begin with one. -/
theorem head?_dropWhile (text : List Char) : ∀ c ∈ (text.dropWhile p).head?, p c = false := by
  intro c hc
  have h := List.head?_dropWhile_not p text
  rw [Option.mem_def.1 hc] at h
  simpa using h

end Runs

/-! ## Parts of lines -/

namespace LineParts

/-- The parts of the same line with the longest category, and the longest white space behind it. -/
def settled (p : LineParts) : LineParts where
  stamp := p.stamp
  gap := p.gap
  category := {
    chars := p.category.chars ++ (p.separator ++ p.body).takeWhile isWord
    ne_nil := List.append_ne_nil_of_left_ne_nil p.category.ne_nil _
    isWord := List.forall_mem_append.2 ⟨p.category.isWord, fun _ h => List.mem_takeWhile_imp h⟩ }
  separator := ((p.separator ++ p.body).dropWhile isWord).takeWhile isBlank
  body := ((p.separator ++ p.body).dropWhile isWord).dropWhile isBlank
  gap_blank := p.gap_blank
  separator_blank := fun _ h => List.mem_takeWhile_imp h

@[simp] theorem text_settled (p : LineParts) : p.settled.text = p.text := by
  simp [text, settled]

theorem isMaximal_settled (p : LineParts) : p.settled.IsMaximal where
  category_ends := by
    simpa [settled] using head?_dropWhile (p := isWord) (p.separator ++ p.body)
  separator_ends := head?_dropWhile _

variable {p q : LineParts}

/-- The stamp of a line, the white space behind it and all that follows can be read off the line. -/
theorem front_of_text_eq (h : p.text = q.text) :
    p.stamp = q.stamp ∧ p.gap = q.gap ∧
      p.category.chars ++ (p.separator ++ p.body) = q.category.chars ++ (q.separator ++ q.body) := by
  have hinline : ∀ {t u : Inline ']'}, t.chars = u.chars → t = u := by
    rintro ⟨_, _, _⟩ ⟨_, _, _⟩ rfl
    rfl
  -- mark by mark, from the left
  obtain ⟨htime, h⟩ := cut_unique p.stamp.time.mark_not_mem q.stamp.time.mark_not_mem
    (List.cons.inj h).2
  obtain ⟨hgenerator, h⟩ := cut_unique p.stamp.generator.mark_not_mem q.stamp.generator.mark_not_mem
    (List.cons.inj h).2
  obtain ⟨hfile, h⟩ := cut_unique p.stamp.file.mark_not_mem q.stamp.file.mark_not_mem
    (List.cons.inj h).2
  -- the white space ends in front of the category, which is a word
  obtain ⟨hgap, hrest⟩ := span_unique p.gap_blank q.gap_blank
    (DefaultPattern.isBlank_head?_of_word (List.prefix_append p.category.chars _))
    (DefaultPattern.isBlank_head?_of_word (List.prefix_append q.category.chars _)) h
  have hstamp : ∀ {s u : Stamp}, s.time = u.time → s.generator = u.generator → s.file = u.file → s = u := by
    rintro ⟨_, _, _⟩ ⟨_, _, _⟩ rfl rfl rfl
    rfl
  exact ⟨hstamp (hinline htime) (hinline hgenerator) (hinline hfile), hgap, hrest⟩

/-- **A line can be taken apart in one way** in which no part can go on. -/
theorem eq_of_text_eq (hp : p.IsMaximal) (hq : q.IsMaximal) (h : p.text = q.text) : p = q := by
  obtain ⟨hstamp, hgap, hrest⟩ := front_of_text_eq h
  obtain ⟨hcategory, hrest⟩ :=
    span_unique p.category.isWord q.category.isWord hp.category_ends hq.category_ends hrest
  obtain ⟨hseparator, hbody⟩ :=
    span_unique p.separator_blank q.separator_blank hp.separator_ends hq.separator_ends hrest
  obtain ⟨stamp, gap, ⟨category, _, _⟩, separator, body, _, _⟩ := p
  obtain ⟨stamp', gap', ⟨category', _, _⟩, separator', body', _, _⟩ := q
  cases hstamp
  cases hgap
  cases hcategory
  cases hseparator
  cases hbody
  rfl

end LineParts

/-! ## What the parts of the pattern stand for -/

namespace DefaultPattern

open Pattern

variable {run : List Char} {found : List (Nat × List Char)} {index : Nat} {c : Char} {parts : List Node}

theorem eq_of_spells_mark (h : (mark c).Spells run found) : run = [c] := by
  obtain ⟨⟨d, hd, rfl⟩, -⟩ := h
  rw [CharSet.mem_single, decide_eq_true_eq] at hd
  rw [hd]

theorem not_mem_of_spells_without (h : (without index c).Spells run found) : c ∉ run := by
  obtain ⟨_, ⟨-, -, hrun, -⟩, -⟩ := h
  intro hc
  simpa [CharSet.mem] using hrun c hc

/-- A pattern for a word stands for words. -/
theorem exists_word_of_spells (h : (word index).Spells run found) : ∃ w : Word, w.chars = run := by
  obtain ⟨_, ⟨hleast, -, hrun, -⟩, -⟩ := h
  exact ⟨⟨run, List.length_pos_iff.1 hleast, hrun⟩, rfl⟩

/-- The patterns of a bracketed text stand for one, in front of what the others stand for. -/
theorem exists_inline_of_spellsAll (hrun : '\n' ∉ run)
    (h : SpellsAll (mark '[' :: without index ']' :: mark ']' :: parts) run found) :
    ∃ (t : Inline ']') (rest : List Char) (later : List (Nat × List Char)), '\n' ∉ rest ∧
      SpellsAll parts rest later ∧ run = '[' :: (t.chars ++ ']' :: rest) := by
  obtain ⟨_, _, _, _, hopen, ⟨text, _, _, _, htext, ⟨_, _, rest, later, hclose, hrest, rfl, -⟩, rfl, -⟩,
    rfl, -⟩ := h
  obtain rfl := eq_of_spells_mark hopen
  obtain rfl := eq_of_spells_mark hclose
  have hnot := not_mem_of_spells_without htext
  refine ⟨⟨text, hnot, fun h => hrun ?_⟩, rest, later, fun h => hrun ?_, hrest, by simp⟩
  · simp [h]
  · simp [h]

/-- What follows the stamp is made of white space, a category, white space and a body. -/
theorem exists_rest_of_spellsAll
    (h : SpellsAll [blanks 0, word 4, blanks 0, restOfLine 5, .check .textEnd] run found) :
    ∃ (gap : List Char) (w : Word) (separator body : List Char), (∀ c ∈ gap, isBlank c = true) ∧
      (∀ c ∈ separator, isBlank c = true) ∧ run = gap ++ (w.chars ++ (separator ++ body)) := by
  obtain ⟨gap, _, _, _, hgap, ⟨category, _, _, _, hcategory, ⟨separator, _, body, _, hseparator, -, rfl, -⟩,
    rfl, -⟩, rfl, -⟩ := h
  obtain ⟨w, rfl⟩ := exists_word_of_spells hcategory
  exact ⟨gap, w, separator, body, hgap.2.2.1, hseparator.2.2.1, rfl⟩

/-- **A line that is matched is made of parts.** -/
theorem exists_parts_of_captures {text : List Char} (htext : '\n' ∉ text) {c : Captures}
    (h : line.captures text = some c) : ∃ p : LineParts, p.text = text := by
  obtain ⟨s, hs, -⟩ := Option.map_eq_some_iff.1 h
  obtain ⟨_, hall, -⟩ := spelling_of_wholeMatch [mark '[', without 1 ']', mark ']', mark '[', without 2 ']',
    mark ']', mark '[', without 3 ']', mark ']', blanks 0, word 4, blanks 0, restOfLine 5] hs
  obtain ⟨time, _, _, htime, hbehind, rfl⟩ := exists_inline_of_spellsAll htext hall
  obtain ⟨generator, _, _, hgenerator, hbehind', rfl⟩ := exists_inline_of_spellsAll htime hbehind
  obtain ⟨file, _, _, -, hrest, rfl⟩ := exists_inline_of_spellsAll hgenerator hbehind'
  obtain ⟨gap, w, separator, body, hgap, hseparator, rfl⟩ := exists_rest_of_spellsAll hrest
  exact ⟨⟨⟨time, generator, file⟩, gap, w, separator, body, hgap, hseparator⟩, rfl⟩

/-- **The grammar of lines.** The pattern that lines are matched with by default takes the lines that are made
of parts, and no others. What it captures are the parts with the longest category and the longest white space
behind it, which are determined by the line, as is all in front of the category. -/
theorem line_grammar {text : List Char} (htext : '\n' ∉ text) :
    Pattern.compile ({} : Config).trace.linePattern = .ok line ∧
      ((line.captures text).isSome = true ↔ ∃ p : LineParts, p.text = text) ∧
      ∀ c, line.captures text = some c →
        ∃ p : LineParts, p.text = text ∧ p.IsMaximal ∧ p.CapturedIn c ∧
          ∀ q : LineParts, q.text = text →
            q.stamp = p.stamp ∧ q.gap = p.gap ∧ (q.IsMaximal → q = p) := by
  -- whatever parts there are, the pattern finds the settled ones
  have hfound : ∀ p : LineParts, p.text = text →
      ∃ c, line.captures text = some c ∧ p.settled.CapturedIn c := by
    rintro p rfl
    have hbody : '\n' ∉ p.settled.body := by
      intro hmem
      refine htext ?_
      rw [← p.text_settled]
      simp [LineParts.text, hmem]
    obtain ⟨c, hc, hp⟩ := captures_parts p.isMaximal_settled hbody
    exact ⟨c, by rwa [p.text_settled] at hc, hp⟩
  refine ⟨compile_written List.mem_cons_self, ⟨?_, ?_⟩, ?_⟩
  · intro hsome
    obtain ⟨c, hc⟩ := Option.isSome_iff_exists.1 hsome
    exact exists_parts_of_captures htext hc
  · rintro ⟨p, hp⟩
    obtain ⟨c, hc, -⟩ := hfound p hp
    rw [hc]
    rfl
  · intro c hc
    obtain ⟨p, hp⟩ := exists_parts_of_captures htext hc
    obtain ⟨c', hc', hcaptured⟩ := hfound p hp
    obtain rfl : c = c' := Option.some.inj (hc.symm.trans hc')
    have hsettled : p.settled.text = text := p.text_settled.trans hp
    refine ⟨p.settled, hsettled, p.isMaximal_settled, hcaptured, fun q hq => ?_⟩
    have htexts : q.text = p.settled.text := hq.trans hsettled.symm
    obtain ⟨hstamp, hgap, -⟩ := LineParts.front_of_text_eq htexts
    exact ⟨hstamp, hgap, fun hmaximal => LineParts.eq_of_text_eq hmaximal p.isMaximal_settled htexts⟩

/-- A line whose category stands right behind its stamp and right in front of its body. -/
def adjoining : LineParts where
  stamp := {
    time := ⟨['1', '0'], by decide, by decide⟩
    generator := ⟨['S', 'r', 'v'], by decide, by decide⟩
    file := ⟨['f', '[', '1'], by decide, by decide⟩ }
  gap := []
  category := ⟨['c', 'a', 'l', 'l'], List.cons_ne_nil _ _, List.all_eq_true.1 (by decide)⟩
  separator := []
  body := [':', ':', 'x', '(', ')', ' ', '[', 'y', ']']
  gap_blank := List.forall_mem_nil _
  separator_blank := List.forall_mem_nil _

/-- The grammar is met without white space, too. -/
theorem line_grammar_adjoining :
    '\n' ∉ adjoining.text ∧ ∃ c, line.captures adjoining.text = some c ∧
      c.get? "file" = some "f[1" ∧ c.get? "category" = some "call" ∧ c.get? "body" = some "::x() [y]" := by
  have hline : '\n' ∉ adjoining.text := by decide
  obtain ⟨-, hmatched, hcaptured⟩ := line_grammar hline
  obtain ⟨c, hc⟩ := Option.isSome_iff_exists.1 (hmatched.2 ⟨adjoining, rfl⟩)
  obtain ⟨p, -, -, hgroups, hunique⟩ := hcaptured c hc
  have hmaximal : adjoining.IsMaximal := by
    constructor
    · rintro _ ⟨⟩
      decide
    · rintro _ ⟨⟩
      decide
  obtain rfl := (hunique adjoining rfl).2.2 hmaximal
  exact ⟨hline, c, hc, hgroups.file, hgroups.category, hgroups.body⟩

end DefaultPattern

end TraceDiagram
