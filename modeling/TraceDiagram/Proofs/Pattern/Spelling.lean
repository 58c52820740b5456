import TraceDiagram.Proofs.Pattern.Takes

/-! # What a match is made of

What a pattern means, apart from the order in which its matches are tried: the runs of text that it stands
for, with the groups found in them. Every match that is found is one of these.

* **`Node.Spells`** the runs that a pattern stands for; **`Rounds`** some rounds of a repetition, and
  **`SpellsAll`** several patterns, one after the other. Conditions on the place of a match are left aside.
* **`Node.indices`** the groups that a pattern has; **`Node.Spells.index_mem`** it finds no others.
* **`reads_results`** wherever a pattern can end, it has taken a run that it stands for.
* **`spelling_of_firstMatch`** so has the match of a pattern that is bound to the start of the text;
  **`spelling_of_wholeMatch`** one that is bound to its end as well has taken all of it. -/

namespace TraceDiagram.Pattern

/-! ## Runs that patterns stand for -/

/-- Some rounds, each of which takes a run and finds groups as `R` says; the latest groups come first. -/
inductive Rounds (R : List Char → List (Nat × List Char) → Prop) :
    Nat → List Char → List (Nat × List Char) → Prop where
  /-- No round takes nothing. -/
  | none : Rounds R 0 [] []
  /-- One more round. -/
  | more {count : Nat} {run run' : List Char} {found found' : List (Nat × List Char)}
      (before : Rounds R count run found) (last : R run' found') :
      Rounds R (count + 1) (run ++ run') (found' ++ found)

/-- A pattern stands for a run of text in which it finds the given groups, the latest first. -/
def Node.Spells : Node → List Char → List (Nat × List Char) → Prop
  | .empty, run, found => run = [] ∧ found = []
  | .one set, run, found => (∃ c, set.mem c = true ∧ run = [c]) ∧ found = []
  | .check _, run, found => run = [] ∧ found = []
  | .group index body, run, found => ∃ inner, body.Spells run inner ∧ found = (index, run) :: inner
  | .seq first second, run, found => ∃ run₁ found₁ run₂ found₂, first.Spells run₁ found₁ ∧
      second.Spells run₂ found₂ ∧ run = run₁ ++ run₂ ∧ found = found₂ ++ found₁
  | .alt first second, run, found => first.Spells run found ∨ second.Spells run found
  | .span set least most _, run, found => least ≤ run.length ∧ (∀ m ∈ most, run.length ≤ m) ∧
      (∀ c ∈ run, set.mem c = true) ∧ found = []
  | .loop body least most _, run, found => ∃ count, least ≤ count ∧ (∀ m ∈ most, count ≤ max least m) ∧
      Rounds body.Spells count run found

/-- Several patterns, one after the other, stand for a run. -/
def SpellsAll : List Node → List Char → List (Nat × List Char) → Prop
  | [], run, found => run = [] ∧ found = []
  | n :: parts, run, found => ∃ run₁ found₁ run₂ found₂, n.Spells run₁ found₁ ∧
      SpellsAll parts run₂ found₂ ∧ run = run₁ ++ run₂ ∧ found = found₂ ++ found₁

/-- A sequence stands for what its parts stand for, one after the other. -/
theorem spellsAll_of_foldl {first : Node} {parts : List Node} {run : List Char}
    {found : List (Nat × List Char)} (h : (parts.foldl .seq first).Spells run found) :
    SpellsAll (first :: parts) run found := by
  induction parts generalizing first with
  | nil => exact ⟨run, found, [], [], h, ⟨rfl, rfl⟩, (List.append_nil run).symm, rfl⟩
  | cons second parts ih =>
    obtain ⟨_, _, run', found', ⟨run₁, found₁, run₂, found₂, h₁, h₂, rfl, rfl⟩, hparts, rfl, rfl⟩ := ih h
    exact ⟨run₁, found₁, _, _, h₁, ⟨run₂, found₂, run', found', h₂, hparts, rfl, rfl⟩,
      List.append_assoc .., (List.append_assoc ..).symm⟩

/-! ## Numbers of groups -/

/-- The numbers of the groups in a pattern. -/
def Node.indices : Node → List Nat
  | .empty | .one _ | .check _ | .span .. => []
  | .group index body => index :: body.indices
  | .seq first second | .alt first second => first.indices ++ second.indices
  | .loop body .. => body.indices

/-- What holds of all groups found in a round holds of those found in several. -/
theorem Rounds.forall_found {R : List Char → List (Nat × List Char) → Prop} {P : Nat × List Char → Prop}
    (hR : ∀ run found, R run found → ∀ g ∈ found, P g) {count : Nat} {run : List Char}
    {found : List (Nat × List Char)} (h : Rounds R count run found) : ∀ g ∈ found, P g := by
  induction h with
  | none => exact List.forall_mem_nil _
  | more _ last ih => exact List.forall_mem_append.2 ⟨hR _ _ last, ih⟩

/-- A pattern finds no other groups than it has. -/
theorem Node.Spells.index_mem {n : Node} {run : List Char} {found : List (Nat × List Char)}
    (h : n.Spells run found) : ∀ g ∈ found, g.1 ∈ n.indices := by
  induction n generalizing run found with
  | empty => simp [h.2]
  | one set => simp [h.2]
  | check a => simp [h.2]
  | span set least most greedy => simp [h.2.2.2]
  | group index body ih =>
    obtain ⟨inner, hinner, rfl⟩ := h
    exact List.forall_mem_cons.2 ⟨List.mem_cons_self, fun g hg => List.mem_cons_of_mem _ (ih hinner g hg)⟩
  | seq first second ih₁ ih₂ =>
    obtain ⟨_, _, _, _, h₁, h₂, -, rfl⟩ := h
    exact List.forall_mem_append.2 ⟨fun g hg => List.mem_append_right _ (ih₂ h₂ g hg),
      fun g hg => List.mem_append_left _ (ih₁ h₁ g hg)⟩
  | alt first second ih₁ ih₂ =>
    rcases h with h | h
    · exact fun g hg => List.mem_append_left _ (ih₁ h g hg)
    · exact fun g hg => List.mem_append_right _ (ih₂ h g hg)
  | loop body least most greedy ih =>
    obtain ⟨_, -, -, hrounds⟩ := h
    exact hrounds.forall_found fun _ _ => ih

/-- Of several patterns, one has found each of the groups. -/
theorem SpellsAll.exists_part {parts : List Node} {run : List Char} {found : List (Nat × List Char)}
    (h : SpellsAll parts run found) :
    ∀ g ∈ found, ∃ part ∈ parts, ∃ run' found', part.Spells run' found' ∧ g ∈ found' := by
  induction parts generalizing run found with
  | nil => simp [h.2]
  | cons part parts ih =>
    obtain ⟨run₁, found₁, _, found₂, h₁, h₂, -, rfl⟩ := h
    intro g hg
    rcases List.mem_append.1 hg with hlater | hfirst
    · obtain ⟨later, hmem, hspells⟩ := ih h₂ g hlater
      exact ⟨later, List.mem_cons_of_mem _ hmem, hspells⟩
    · exact ⟨part, List.mem_cons_self, run₁, found₁, h₁, hfirst⟩

/-- Patterns without a group of a number do not find one. -/
theorem SpellsAll.lookup_eq_none {parts : List Node} {run : List Char} {found : List (Nat × List Char)}
    (h : SpellsAll parts run found) {index : Nat} (hparts : ∀ part ∈ parts, index ∉ part.indices) :
    found.lookup index = none := by
  refine List.lookup_eq_none_iff.2 fun g hg => ?_
  obtain ⟨part, hpart, _, _, hspells, hmem⟩ := h.exists_part g hg
  have hne : index ≠ g.1 := fun heq => hparts part hpart (heq ▸ hspells.index_mem g hmem)
  simpa using hne

/-! ## Steps -/

/-- Wherever a step ends, it has taken a run and found groups as `R` says. -/
def Reads (step : State → List State) (R : List Char → List (Nat × List Char) → Prop) : Prop :=
  ∀ s, ∀ s' ∈ step s, ∃ run found, R run found ∧ s.Advances run found s'

theorem mem_of_mem_distinct {s : State} {states : List State} (h : s ∈ distinct states) : s ∈ states :=
  mem_of_mem_distinctFrom h

/-- A span takes characters of its set, as many as it may. -/
theorem exists_run_of_mem_spanFrom {set : CharSet} {groups : List (Nat × Extent)} {least : Nat}
    {most : Option Nat} {before : Option Char} {offset : Nat} {text : List Char} {s : State}
    (h : s ∈ spanFrom set groups least most before offset text) :
    ∃ run, (Node.span set least most true).Spells run [] ∧
      State.Advances ⟨⟨before, text, offset⟩, groups⟩ run [] s := by
  induction text generalizing least most before offset with
  | nil =>
    rw [spanFrom] at h
    split at h
    · next hleast =>
      rw [List.mem_singleton.1 h]
      exact ⟨[], ⟨Nat.le_of_eq hleast, by simp, by simp, rfl⟩, .refl _⟩
    · cases h
  | cons c text ih =>
    simp only [spanFrom] at h
    -- it stops in front of the character, or takes it and goes on
    have hcases : (least = 0 ∧ s = ⟨⟨before, c :: text, offset⟩, groups⟩) ∨
        (most ≠ some 0 ∧ set.mem c = true) ∧
          s ∈ spanFrom set groups (least - 1) (most.map (· - 1)) (some c) (offset + 1) text := by
      by_cases hleast : least = 0
      · rw [if_pos hleast, List.mem_cons] at h
        refine h.imp (fun hs => ⟨hleast, hs⟩) fun hs => ?_
        split at hs
        · next hgo => exact ⟨hgo, hs⟩
        · cases hs
      · rw [if_neg hleast] at h
        split at h
        · next hgo => exact .inr ⟨hgo, h⟩
        · cases h
    rcases hcases with ⟨hleast, rfl⟩ | ⟨⟨hmost, hc⟩, hs⟩
    · exact ⟨[], ⟨Nat.le_of_eq hleast, by simp, by simp, rfl⟩, .refl _⟩
    · obtain ⟨run, ⟨hleast, hbound, hrun, -⟩, hadv⟩ := ih hs
      refine ⟨c :: run, ⟨?_, ?_, ?_, rfl⟩, ?_⟩
      · rw [List.length_cons]
        omega
      · intro m hm
        have hpos : m ≠ 0 := fun hzero => hmost (hzero ▸ hm)
        have hrest := hbound (m - 1) (Option.mem_map_of_mem _ hm)
        rw [List.length_cons]
        omega
      · exact List.forall_mem_cons.2 ⟨hc, hrun⟩
      · have hstep : State.Advances ⟨⟨before, c :: text, offset⟩, groups⟩ [c] []
            ⟨⟨some c, text, offset + 1⟩, groups⟩ := ⟨rfl, rfl, rfl⟩
        exact hstep.trans hadv

/-! ### Repetition -/

/-- From `s` to `s'` there are `count` rounds. -/
def State.AfterRounds (R : List Char → List (Nat × List Char) → Prop) (s : State) (count : Nat)
    (s' : State) : Prop :=
  ∃ run found, Rounds R count run found ∧ s.Advances run found s'

section Repetition

variable {R : List Char → List (Nat × List Char) → Prop} {step : State → List State} {s t t' : State}
  {count : Nat}

theorem State.AfterRounds.zero (s : State) : s.AfterRounds R 0 s := ⟨[], [], .none, .refl s⟩

/-- A step is one more round. -/
theorem State.AfterRounds.next (h : s.AfterRounds R count t) (hstep : Reads step R) (ht : t' ∈ step t) :
    s.AfterRounds R (count + 1) t' := by
  obtain ⟨run, found, hrounds, hadv⟩ := h
  obtain ⟨run', found', hlast, hadv'⟩ := hstep t t' ht
  exact ⟨_, _, .more hrounds hlast, hadv.trans hadv'⟩

theorem afterRounds_of_mem_exactRounds (hstep : Reads step R) {states : List State} {more : Nat}
    (h : ∀ t ∈ states, s.AfterRounds R count t) :
    ∀ t ∈ exactRounds step more states, s.AfterRounds R (count + more) t := by
  induction more generalizing count states with
  | zero => exact h
  | succ more ih =>
    have hnext : ∀ t ∈ distinct (states.flatMap step), s.AfterRounds R (count + 1) t := by
      intro t' ht'
      obtain ⟨t, ht, ht'⟩ := List.mem_flatMap.1 (mem_of_mem_distinct ht')
      exact (h t ht).next hstep ht'
    rw [exactRounds, Nat.add_comm more 1, ← Nat.add_assoc]
    exact ih hnext

theorem afterRounds_of_mem_upToRounds (hstep : Reads step R) (greedy : Bool) {most : Nat}
    (h : s.AfterRounds R count t) :
    ∀ t' ∈ upToRounds step greedy most t,
      ∃ total, count ≤ total ∧ total ≤ count + most ∧ s.AfterRounds R total t' := by
  induction most generalizing count t with
  | zero =>
    intro t' ht'
    rw [List.mem_singleton.1 ht']
    exact ⟨count, Nat.le_refl _, Nat.le_refl _, h⟩
  | succ most ih =>
    -- one may stay, or go on after one round
    refine forall_distinct (forall_orStay ⟨count, Nat.le_refl _, by omega, h⟩ (forall_distinct ?_) greedy)
    intro t' ht'
    obtain ⟨u, hu, ht'⟩ := List.mem_flatMap.1 ht'
    obtain ⟨total, hleast, hmost, htotal⟩ := ih (h.next hstep hu) t' ht'
    exact ⟨total, by omega, by omega, htotal⟩

theorem afterRounds_of_mem_someRounds (hstep : Reads step R) (greedy : Bool)
    (h : s.AfterRounds R count t) :
    ∀ t' ∈ someRounds step greedy t, ∃ total, count + 1 ≤ total ∧ s.AfterRounds R total t' := by
  have hkeeps : Keeps (fun t => ∃ total, count + 1 ≤ total ∧ s.AfterRounds R total t) step := by
    rintro t ⟨total, hleast, htotal⟩ t' ht'
    exact ⟨total + 1, by omega, htotal.next hstep ht'⟩
  exact forall_visitAll (hkeeps.visitRounds greedy _ _)
    (fun t' ht' => ⟨count + 1, Nat.le_refl _, h.next hstep ht'⟩) _

/-- A repetition takes its rounds, as many as it may. -/
theorem afterRounds_of_mem_loopResults (hstep : Reads step R) (greedy : Bool) {least : Nat}
    {most : Option Nat} {s : State} :
    ∀ s' ∈ loopResults step greedy least most s,
      ∃ total, least ≤ total ∧ (∀ m ∈ most, total ≤ max least m) ∧ s.AfterRounds R total s' := by
  have hexact : ∀ count, ∀ t ∈ exactRounds step count [s], s.AfterRounds R count t := by
    intro count t ht
    have h := afterRounds_of_mem_exactRounds hstep (List.forall_mem_singleton.2 (State.AfterRounds.zero s)) t ht
    rwa [Nat.zero_add] at h
  unfold loopResults
  split
  · refine forall_distinct (forall_orStay ⟨0, Nat.le_refl _, by simp, .zero s⟩ ?_ greedy)
    intro s' hs'
    obtain ⟨total, -, htotal⟩ := afterRounds_of_mem_someRounds hstep greedy (.zero s) s' hs'
    exact ⟨total, Nat.zero_le _, by simp, htotal⟩
  · refine forall_distinct fun s' hs' => ?_
    obtain ⟨t, ht, hs'⟩ := List.mem_flatMap.1 hs'
    obtain ⟨total, hleast, htotal⟩ := afterRounds_of_mem_someRounds hstep greedy (hexact _ t ht) s' hs'
    exact ⟨total, hleast, by simp, htotal⟩
  · next most =>
    refine forall_distinct fun s' hs' => ?_
    obtain ⟨t, ht, hs'⟩ := List.mem_flatMap.1 hs'
    obtain ⟨total, hleast, hmost, htotal⟩ :=
      afterRounds_of_mem_upToRounds hstep greedy (hexact _ t ht) s' hs'
    refine ⟨total, hleast, ?_, htotal⟩
    intro m hm
    obtain rfl := Option.mem_some_iff.1 hm
    omega

end Repetition

/-! ## Patterns -/

/-- **Every match is one that the pattern stands for.** Wherever a pattern can end, it has taken a run that
it stands for, and it remembers the groups found in that. -/
theorem reads_results (n : Node) : Reads n.results n.Spells := by
  induction n with
  | empty =>
    intro s s' hs'
    rw [List.mem_singleton.1 hs']
    exact ⟨[], [], ⟨rfl, rfl⟩, .refl s⟩
  | one set =>
    rintro ⟨⟨before, text, offset⟩, groups⟩ s' hs'
    cases text with
    | nil => cases hs'
    | cons c text =>
      simp only [Node.results, oneResult] at hs'
      split at hs'
      · next hc =>
        rw [List.mem_singleton.1 hs']
        exact ⟨[c], [], ⟨⟨c, hc, rfl⟩, rfl⟩, rfl, rfl, rfl⟩
      · cases hs'
  | check a =>
    intro s s' hs'
    rw [Node.results] at hs'
    split at hs'
    · rw [List.mem_singleton.1 hs']
      exact ⟨[], [], ⟨rfl, rfl⟩, .refl s⟩
    · cases hs'
  | group index body ih =>
    intro s s' hs'
    obtain ⟨t, ht, rfl⟩ := List.mem_map.1 hs'
    obtain ⟨run, found, hspells, hadv⟩ := ih s t ht
    exact ⟨run, _, ⟨found, hspells, rfl⟩, hadv.remember index⟩
  | seq first second ih₁ ih₂ =>
    intro s s' hs'
    obtain ⟨t, ht, hs'⟩ := List.mem_flatMap.1 (mem_of_mem_distinct hs')
    obtain ⟨run₁, found₁, h₁, hadv₁⟩ := ih₁ s t ht
    obtain ⟨run₂, found₂, h₂, hadv₂⟩ := ih₂ t s' hs'
    exact ⟨_, _, ⟨run₁, found₁, run₂, found₂, h₁, h₂, rfl, rfl⟩, hadv₁.trans hadv₂⟩
  | alt first second ih₁ ih₂ =>
    intro s s' hs'
    rcases List.mem_append.1 (mem_of_mem_distinct hs') with h | h
    · obtain ⟨run, found, hspells, hadv⟩ := ih₁ s s' h
      exact ⟨run, found, .inl hspells, hadv⟩
    · obtain ⟨run, found, hspells, hadv⟩ := ih₂ s s' h
      exact ⟨run, found, .inr hspells, hadv⟩
  | span set least most greedy =>
    intro s s' hs'
    have hmem : s' ∈ spanFrom set s.groups least most s.cursor.before s.cursor.offset s.cursor.rest := by
      rw [Node.results, spanResults] at hs'
      cases greedy <;> simpa using hs'
    obtain ⟨run, hspells, hadv⟩ := exists_run_of_mem_spanFrom hmem
    exact ⟨run, [], hspells, hadv⟩
  | loop body least most greedy ih =>
    intro s s' hs'
    obtain ⟨total, hleast, hmost, run, found, hrounds, hadv⟩ :=
      afterRounds_of_mem_loopResults ih greedy s' hs'
    exact ⟨run, found, ⟨total, hleast, hmost, hrounds⟩, hadv⟩

/-! ## Patterns that are bound to the text -/

/-- What follows a pattern that does not match does not match either. -/
theorem results_foldl_eq_nil {first : Node} {s : State} (h : first.results s = []) (parts : List Node) :
    (parts.foldl .seq first).results s = [] := by
  induction parts generalizing first with
  | nil => exact h
  | cons second parts ih =>
    refine ih ?_
    rw [Node.results, h]
    rfl

/-- A pattern that is bound to the start of a text matches nowhere else. -/
theorem mem_results_of_firstMatch {parts : List Node} {text : List Char} {s : State}
    (h : firstMatch (.group 0 (.sequence (.check .textStart :: parts))) text = some s) :
    s ∈ (Node.group 0 (.sequence (.check .textStart :: parts))).results ⟨Cursor.start text, []⟩ := by
  have hlater : ∀ (before : Char) (offset : Nat) (text : List Char),
      (Node.group 0 (.sequence (.check .textStart :: parts))).results ⟨⟨some before, text, offset⟩, []⟩ = [] := by
    intro before offset text
    rw [Node.results, Node.sequence, results_foldl_eq_nil rfl, List.map_nil]
  have hnone : ∀ (before : Char) (offset : Nat) (text : List Char),
      searchFrom (.group 0 (.sequence (.check .textStart :: parts))) (some before) offset text = none := by
    intro before offset text
    induction text generalizing before offset with
    | nil => rw [searchFrom, hlater]; rfl
    | cons c text ih => rw [searchFrom, hlater]; exact ih c (offset + 1)
  cases text with
  | nil => exact List.mem_of_head? h
  | cons c text =>
    rw [firstMatch, searchFrom] at h
    split at h
    · next hhead =>
      obtain rfl := Option.some.inj h
      exact List.mem_of_head? hhead
    · rw [hnone] at h
      cases h

/-- **The match of a pattern that is bound to the start of the text** has taken what its parts stand for, from
there on. -/
theorem spelling_of_firstMatch {parts : List Node} {text : List Char} {s : State}
    (h : firstMatch (.group 0 (.sequence (.check .textStart :: parts))) text = some s) :
    ∃ run found, SpellsAll parts run found ∧ text = run ++ s.cursor.rest ∧ s.matched = (0, run) :: found := by
  obtain ⟨run, _, ⟨found, hspells, rfl⟩, hadv⟩ := reads_results _ _ _ (mem_results_of_firstMatch h)
  obtain ⟨_, _, _, _, ⟨rfl, rfl⟩, hparts, rfl, rfl⟩ := spellsAll_of_foldl hspells
  exact ⟨_, _, hparts, hadv.rest, by simpa [State.matched] using hadv.matched⟩

/-- **If it is bound to the end as well**, they stand for the whole text. -/
theorem spelling_of_wholeMatch (parts : List Node) {text : List Char} {s : State}
    (h : firstMatch (.group 0 (.sequence (.check .textStart :: (parts ++ [.check .textEnd])))) text = some s) :
    ∃ found, SpellsAll (parts ++ [.check .textEnd]) text found ∧ s.matched = (0, text) :: found := by
  obtain ⟨run, found, hspells, htext, hmatched⟩ := spelling_of_firstMatch h
  have hend : s.cursor.rest = [] := by
    obtain ⟨t, ht, rfl⟩ := List.mem_map.1 (mem_results_of_firstMatch h)
    rw [Node.sequence, List.foldl_append, List.foldl_cons, List.foldl_nil, Node.results] at ht
    obtain ⟨u, -, ht⟩ := List.mem_flatMap.1 (mem_of_mem_distinct ht)
    rw [Node.results] at ht
    split at ht
    · next hnone =>
      have hrest : u.cursor.rest = [] := by simpa [Assertion.holds] using hnone
      rw [List.mem_singleton.1 ht]
      exact hrest
    · cases ht
  rw [hend, List.append_nil] at htext
  subst htext
  exact ⟨found, hspells, hmatched⟩

end TraceDiagram.Pattern
