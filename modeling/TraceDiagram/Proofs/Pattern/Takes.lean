import Mathlib.Data.List.Basic
import TraceDiagram.Proofs.Pattern.Invariants

/-! # What a pattern takes

Where every part of a pattern is settled before the next one, the preferred way to match can be read off
from the left.

* **`State.Advances`** one state comes from another by taking a run of text and remembering groups.
* **`Node.Takes`** in front of a given text, the preferred way to match takes exactly a given run;
  **`Node.TakesAll`** the same of several patterns, one after the other.
* **`Node.Fails`** there is no way to match; **`onward_results`** matching only moves forward, which
  is why a mark that does not occur is never reached.
* **`firstMatch_anchored`** the match of a pattern that begins at the start of the text. -/

namespace TraceDiagram.Pattern

/-! ## States -/

/-- The groups of a state with the texts that they matched. -/
def State.matched (s : State) : List (Nat × List Char) := s.groups.map fun g => (g.1, g.2.text)

/-- Looking a group up gives its stretch or the text of that. -/
theorem State.lookup_matched (s : State) (index : Nat) :
    s.matched.lookup index = (s.groups.lookup index).map Extent.text := by
  rw [matched]
  induction s.groups with
  | nil => rfl
  | cons g groups ih =>
    rw [List.map_cons, List.lookup_cons, List.lookup_cons, ih]
    split <;> rfl

/-- From `s` to `s'` the text `run` was taken and the groups `found` were added. -/
structure State.Advances (s : State) (run : List Char) (found : List (Nat × List Char))
    (s' : State) : Prop where
  /-- The text in front of `s` is the run and the text in front of `s'`. -/
  rest : s.cursor.rest = run ++ s'.cursor.rest
  /-- The place moved by the length of the run. -/
  offset : s'.offset = s.offset + run.length
  /-- The groups that were matched before stay. -/
  matched : s'.matched = found ++ s.matched

namespace State.Advances

variable {s t u : State} {run run' rest : List Char} {found found' : List (Nat × List Char)}

theorem refl (s : State) : s.Advances [] [] s := ⟨rfl, rfl, rfl⟩

theorem trans (h : s.Advances run found t) (h' : t.Advances run' found' u) :
    s.Advances (run ++ run') (found' ++ found) u := by
  refine ⟨?_, ?_, ?_⟩
  · rw [h.rest, h'.rest, List.append_assoc]
  · rw [h'.offset, h.offset, List.length_append, Nat.add_assoc]
  · rw [h'.matched, h.matched, List.append_assoc]

/-- What is left once the run has been taken. -/
theorem rest_eq (h : s.Advances run found t) (hs : s.cursor.rest = run ++ rest) :
    t.cursor.rest = rest :=
  List.append_cancel_left (h.rest.symm.trans hs)

end State.Advances

/-- To remember a stretch is to add the run between the two states. -/
theorem State.Advances.remember {s t : State} {run : List Char} {found : List (Nat × List Char)}
    (h : s.Advances run found t) (index : Nat) :
    s.Advances run ((index, run) :: found) (s.remember index t) := by
  have hlength : t.offset - s.offset = run.length := by
    rw [h.offset, Nat.add_sub_cancel_left]
  have htext : (⟨s.cursor.rest, t.offset - s.offset⟩ : Extent).text = run := by
    rw [Extent.text, hlength, h.rest, List.take_left]
  refine ⟨h.rest, h.offset, ?_⟩
  rw [State.matched, State.remember, List.map_cons, htext, List.cons_append, ← h.matched]
  rfl

namespace Node

variable {n first second body : Node} {run run' rest text : List Char} {set : CharSet}
  {found found' : List (Nat × List Char)} {s s₁ s₂ : State}

/-! ## The preferred way -/

/-- The preferred state in which a pattern can end. -/
def best (n : Node) (s : State) : Option State := (n.results s).head?

/-- In front of `run ++ rest` the preferred way to match takes `run` and remembers `found`. -/
def Takes (n : Node) (run rest : List Char) (found : List (Nat × List Char)) : Prop :=
  ∀ s : State, s.cursor.rest = run ++ rest → ∃ s', n.best s = some s' ∧ s.Advances run found s'

/-- The end of the text is where nothing is left. -/
theorem takes_textEnd : Takes (.check .textEnd) [] [] [] := by
  intro s hs
  refine ⟨s, ?_, .refl s⟩
  rw [best, results, hs]
  rfl

theorem takes_one {c : Char} (hc : set.mem c = true) : Takes (.one set) [c] rest [] := by
  intro s hs
  refine ⟨⟨⟨some c, rest, s.cursor.offset + 1⟩, s.groups⟩, ?_, hs, rfl, rfl⟩
  rw [best, results, oneResult, hs, List.singleton_append]
  simp [hc]

theorem Takes.group (h : Takes body run rest found) (index : Nat) :
    Takes (.group index body) run rest ((index, run) :: found) := by
  intro s hs
  obtain ⟨s', hbest, hadv⟩ := h s hs
  refine ⟨s.remember index s', ?_, hadv.remember index⟩
  rw [best, results, List.head?_map, ← best, hbest, Option.map_some]

/-- The preferred way of the first pattern is followed by that of the second. -/
theorem best_seq (h₁ : first.best s = some s₁) (h₂ : second.best s₁ = some s₂) :
    (seq first second).best s = some s₂ := by
  obtain ⟨others, hfirst⟩ := List.head?_eq_some_iff.1 h₁
  rw [best, results, head?_distinct, hfirst, List.flatMap_cons, List.head?_append, ← best, h₂,
    Option.some_or]

/-! ## Spans -/

/-- Taking as many characters as possible ends in front of the first one outside the set. -/
theorem getLast?_spanFrom (groups : List (Nat × Extent)) {least : Nat} (hleast : least ≤ run.length)
    (hrun : ∀ c ∈ run, set.mem c = true) (hrest : ∀ c ∈ rest.head?, set.mem c = false)
    (before : Option Char) (offset : Nat) :
    ∃ last, (spanFrom set groups least none before offset (run ++ rest)).getLast? =
      some ⟨⟨last, rest, offset + run.length⟩, groups⟩ := by
  induction run generalizing least before offset with
  | nil =>
    obtain rfl := Nat.le_zero.1 hleast
    refine ⟨before, ?_⟩
    cases rest with
    | nil => rfl
    | cons c cs => simp [spanFrom, hrest c rfl]
  | cons c run ih =>
    have hc : set.mem c = true := hrun c List.mem_cons_self
    obtain ⟨last, hlast⟩ := ih (Nat.sub_le_of_le_add hleast)
      (fun d hd => hrun d (List.mem_cons_of_mem c hd)) (some c) (offset + 1)
    refine ⟨last, ?_⟩
    rw [Nat.add_assoc, Nat.add_comm 1] at hlast
    simp only [List.cons_append, spanFrom, Option.map_none, ne_eq, reduceCtorEq, not_false_eq_true, hc,
      and_self, if_true, List.length_cons]
    -- the state after the whole run comes last, whether or not this one is kept
    split
    · rw [List.getLast?_cons, hlast]
      rfl
    · exact hlast

/-- A greedy span takes all characters of its set that there are. -/
theorem takes_span {least : Nat} (hleast : least ≤ run.length) (hrun : ∀ c ∈ run, set.mem c = true)
    (hrest : ∀ c ∈ rest.head?, set.mem c = false) : Takes (.span set least none true) run rest [] := by
  intro s hs
  obtain ⟨last, hlast⟩ := getLast?_spanFrom s.groups hleast hrun hrest s.cursor.before s.cursor.offset
  refine ⟨⟨⟨last, rest, s.cursor.offset + run.length⟩, s.groups⟩, ?_, hs, rfl, rfl⟩
  rw [best, results, spanResults, if_pos rfl, List.head?_reverse, hs, hlast]

/-! ## Optional parts -/

/-- A part that may be missing is preferred to nothing. -/
theorem best_optional (body : Node) (s : State) :
    (loop body 0 (some 1) true).best s = (body.best s).or (some s) := by
  simp [best, results, loopResults, exactRounds, upToRounds, List.flatMap_singleton', List.head?_append]

theorem Takes.optional (h : Takes body run rest found) :
    Takes (.loop body 0 (some 1) true) run rest found := by
  intro s hs
  obtain ⟨s', hbest, hadv⟩ := h s hs
  exact ⟨s', by rw [best_optional, hbest, Option.some_or], hadv⟩

/-- In front of `text` there is no way to match. -/
def Fails (n : Node) (text : List Char) : Prop := ∀ s : State, s.cursor.rest = text → n.results s = []

/-- A part that is missing takes nothing. -/
theorem Fails.optional (h : Fails body rest) : Takes (.loop body 0 (some 1) true) [] rest [] := by
  intro s hs
  refine ⟨s, ?_, .refl s⟩
  rw [best_optional, best, h s hs]
  rfl

theorem Fails.seq (h : Fails first text) (second : Node) : Fails (.seq first second) text := by
  intro s hs
  rw [results, h s hs]
  rfl

/-! ## Matching moves forward -/

/-- In front of each of some states there is no more text than in front of `s`. -/
def Onward (s : State) (states : List State) : Prop :=
  ∀ s' ∈ states, s'.cursor.rest <:+ s.cursor.rest

/-- **Matching moves forward**: what is left of the text is a suffix of it. -/
theorem onward_results (n : Node) (s : State) : Onward s (n.results s) := by
  have hsuffix : Invariant fun s' => s'.cursor.rest <:+ s.cursor.rest :=
    ⟨fun h => (List.suffix_cons _ _).trans h, fun _ _ h => h⟩
  exact hsuffix.results n s List.suffix_rfl

/-- A character that does not occur is never reached. -/
theorem fails_of_not_mem (first : Node) (h : ∀ c ∈ text, set.mem c = false) :
    Fails (.seq first (.one set)) text := by
  intro s hs
  -- wherever the first pattern ends, the text in front of it is part of the text here
  have hnil : (first.results s).flatMap (one set).results = [] := by
    rw [List.flatMap_eq_nil_iff]
    intro s' hs'
    have hsuffix := onward_results first s s' hs'
    rw [results, oneResult]
    split
    · rfl
    · next c cs hrest =>
      rw [hs, hrest] at hsuffix
      simp [h c (hsuffix.subset List.mem_cons_self)]
  rw [results, hnil, distinct_nil]

/-! ## Patterns one after the other -/

/-- Several patterns, one after the other, take what is in front of them piece by piece, up to `rest`. -/
inductive TakesAll : List Node → List Char → List Char → List (Nat × List Char) → Prop where
  /-- No pattern takes nothing. -/
  | nil (rest : List Char) : TakesAll [] rest rest []
  /-- The first pattern takes the first piece. -/
  | cons {n : Node} {parts : List Node} {run text rest : List Char}
      {found found' : List (Nat × List Char)} (head : Takes n run text found)
      (tail : TakesAll parts text rest found') : TakesAll (n :: parts) (run ++ text) rest (found' ++ found)

/-- What follows a pattern takes its pieces from where that pattern ends. -/
theorem TakesAll.best_foldl {parts : List Node} (h : TakesAll parts text rest found)
    (hfirst : first.best s = some s₁) (hs : s₁.cursor.rest = text) :
    ∃ s' run, text = run ++ rest ∧ (parts.foldl .seq first).best s = some s' ∧
      s₁.Advances run found s' := by
  induction h generalizing first s₁ with
  | nil rest => exact ⟨s₁, [], rfl, hfirst, .refl s₁⟩
  | cons head tail ih =>
    obtain ⟨s₂, hbest, hadv⟩ := head s₁ hs
    obtain ⟨s', run, htext, hbest', hadv'⟩ := ih (best_seq hfirst hbest) (hadv.rest_eq hs)
    exact ⟨s', _, by rw [htext, List.append_assoc], hbest', hadv.trans hadv'⟩

/-- A sequence takes what its parts take. -/
theorem TakesAll.sequence {parts : List Node} (h : TakesAll parts (run ++ rest) rest found) :
    Takes (.sequence parts) run rest found := by
  generalize htext : run ++ rest = text at h
  intro s hs
  rw [htext] at hs
  cases h with
  | nil =>
    obtain rfl := List.append_left_eq_self.1 htext
    exact ⟨s, rfl, .refl s⟩
  | cons head tail =>
    obtain ⟨s₁, hbest, hadv⟩ := head s hs
    obtain ⟨s', run', rfl, hbest', hadv'⟩ := tail.best_foldl hbest (hadv.rest_eq hs)
    rw [← List.append_assoc, List.append_left_inj] at htext
    exact ⟨s', hbest', htext ▸ hadv.trans hadv'⟩

end Node

open Node

/-- A match at the start of a text is the leftmost one. -/
theorem firstMatch_of_best {n : Node} {text : List Char} {s : State}
    (h : n.best ⟨Cursor.start text, []⟩ = some s) : firstMatch n text = some s := by
  cases text with
  | nil => exact h
  | cons c text =>
    have hhead : (n.results ⟨⟨none, c :: text, 0⟩, []⟩).head? = some s := h
    rw [firstMatch, searchFrom, hhead]

/-- **A pattern that is bound to the start of the text** remembers there what its parts remember. -/
theorem firstMatch_anchored {parts : List Node} {text rest : List Char}
    {found : List (Nat × List Char)} (h : TakesAll parts text rest found) :
    ∃ s run, firstMatch (.group 0 (.sequence (.check .textStart :: parts))) text = some s ∧
      s.matched = (0, run) :: found := by
  -- the check at the start takes nothing, and what its parts take follows it
  have hstart : (check .textStart).best ⟨Cursor.start text, []⟩ = some ⟨Cursor.start text, []⟩ := rfl
  obtain ⟨s, run, -, hbest, hadv⟩ := h.best_foldl hstart rfl
  have hgroup := hadv.remember 0
  refine ⟨_, run, firstMatch_of_best ?_, by simpa [State.matched] using hgroup.matched⟩
  rw [best, results, List.head?_map, Node.sequence, ← best, hbest, Option.map_some]

end TraceDiagram.Pattern
