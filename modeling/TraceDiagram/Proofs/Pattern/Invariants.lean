import TraceDiagram.Pattern

/-! # What matching keeps

* **`Pattern.Invariant`** a property of states that is kept when a character is read and when a group is
  remembered.
* **`Pattern.Invariant.results`** wherever a pattern can end, it holds; **`Pattern.Invariant.firstMatch`**
  also where the leftmost match does.
* **`Pattern.State.Within`** what is left of a text and all that the groups matched are stretches of it.
* **`isInfix_of_captures`** so what a named group of a match says is a stretch of the text. -/

namespace TraceDiagram

namespace Pattern

/-- A property of states that matching keeps. -/
structure Invariant (P : State → Prop) : Prop where
  /-- Reading a character keeps it. -/
  read : ∀ {before c text offset groups}, P ⟨⟨before, c :: text, offset⟩, groups⟩ →
    P ⟨⟨some c, text, offset + 1⟩, groups⟩
  /-- Remembering what was matched between two states that have it keeps it. -/
  remember : ∀ {s s'} index, P s → P s' → P (s.remember index s')

/-- A step from a state with the property ends only in states with it. -/
def Keeps (P : State → Prop) (step : State → List State) : Prop := ∀ s, P s → ∀ s' ∈ step s, P s'

theorem mem_of_mem_distinctFrom {s : State} {seen : Places} {states : List State}
    (h : s ∈ distinctFrom seen states) : s ∈ states := by
  induction states generalizing seen with
  | nil => cases h
  | cons t states ih =>
    rw [distinctFrom] at h
    split at h
    · exact List.mem_cons_of_mem t (ih h)
    · rcases List.mem_cons.1 h with rfl | h
      · exact List.mem_cons_self
      · exact List.mem_cons_of_mem t (ih h)

section Steps

variable {P : State → Prop} {states : List State} {step : State → List State}

theorem forall_distinct (h : ∀ s ∈ states, P s) : ∀ s ∈ distinct states, P s :=
  fun s hs => h s (mem_of_mem_distinctFrom hs)

/-- Going on from states with the property. -/
theorem Keeps.forall_flatMap (hstep : Keeps P step) (h : ∀ s ∈ states, P s) :
    ∀ s ∈ states.flatMap step, P s := by
  intro s' hs'
  obtain ⟨s, hs, hs'⟩ := List.mem_flatMap.1 hs'
  exact hstep s (h s hs) s' hs'

/-- Going on or staying; whether the pattern is greedy decides about the order alone. -/
theorem forall_orStay {s : State} (hs : P s) (h : ∀ s' ∈ states, P s') (greedy : Bool) :
    ∀ s' ∈ if greedy then states ++ [s] else s :: states, P s' := by
  cases greedy with
  | false => exact List.forall_mem_cons.2 ⟨hs, h⟩
  | true => exact List.forall_mem_append.2 ⟨h, List.forall_mem_singleton.2 hs⟩

/-! ## Repetition -/

theorem forall_visitAll {visit : State → Places → List State × Places}
    (hvisit : ∀ seen, Keeps P fun s => (visit s seen).1) (h : ∀ s ∈ states, P s) (seen : Places) :
    ∀ s ∈ (visitAll visit states seen).1, P s := by
  induction states generalizing seen with
  | nil => exact List.forall_mem_nil _
  | cons s states ih =>
    obtain ⟨hs, hmore⟩ := List.forall_mem_cons.1 h
    exact List.forall_mem_append.2 ⟨hvisit seen s hs, ih hmore _⟩

section Rounds

variable (hstep : Keeps P step)

include hstep

theorem Keeps.forall_exactRounds (count : Nat) (h : ∀ s ∈ states, P s) :
    ∀ s ∈ exactRounds step count states, P s := by
  induction count generalizing states with
  | zero => exact h
  | succ count ih => exact ih (forall_distinct (hstep.forall_flatMap h))

theorem Keeps.upToRounds (greedy : Bool) (count : Nat) : Keeps P (upToRounds step greedy count) := by
  induction count with
  | zero => exact fun s hs => List.forall_mem_singleton.2 hs
  | succ count ih =>
    intro s hs
    have hfurther : ∀ s' ∈ distinct ((step s).flatMap (Pattern.upToRounds step greedy count)), P s' :=
      forall_distinct (ih.forall_flatMap (hstep s hs))
    exact forall_distinct (forall_orStay hs hfurther greedy)

theorem Keeps.visitRounds (greedy : Bool) (home depth : Nat) (seen : Places) :
    Keeps P fun s => (visitRounds step greedy home depth s seen).1 := by
  induction depth generalizing seen with
  | zero => exact fun s _ => List.forall_mem_nil _
  | succ depth ih =>
    intro s hs
    simp only [Pattern.visitRounds]
    -- a place that was visited is left out, and at home the rounds stop
    split
    · exact List.forall_mem_nil _
    · split
      · exact List.forall_mem_singleton.2 hs
      · exact forall_orStay hs (forall_visitAll ih (hstep s hs) _) greedy

theorem Keeps.someRounds (greedy : Bool) : Keeps P (someRounds step greedy) :=
  fun s hs => forall_visitAll (hstep.visitRounds greedy _ _) (hstep s hs) _

theorem Keeps.loopResults (greedy : Bool) (least : Nat) (most : Option Nat) :
    Keeps P (loopResults step greedy least most) := by
  intro s hs
  have hexact : ∀ count, ∀ s' ∈ exactRounds step count [s], P s' := fun count =>
    hstep.forall_exactRounds count (List.forall_mem_singleton.2 hs)
  unfold Pattern.loopResults
  split
  · exact forall_distinct (forall_orStay hs (hstep.someRounds greedy s hs) greedy)
  · exact forall_distinct ((hstep.someRounds greedy).forall_flatMap (hexact _))
  · exact forall_distinct ((hstep.upToRounds greedy _).forall_flatMap (hexact _))

end Rounds

end Steps

/-! ## Patterns -/

namespace Invariant

variable {P : State → Prop} (h : Invariant P)

include h

theorem oneResult (set : CharSet) : Keeps P (oneResult set) := by
  rintro ⟨⟨before, rest, offset⟩, groups⟩ hs
  cases rest with
  | nil => exact List.forall_mem_nil _
  | cons c text =>
    simp only [Pattern.oneResult]
    split
    · exact List.forall_mem_singleton.2 (h.read hs)
    · exact List.forall_mem_nil _

theorem spanFrom (set : CharSet) (groups : List (Nat × Extent)) (least : Nat) (most : Option Nat)
    (before : Option Char) (offset : Nat) (text : List Char) (hs : P ⟨⟨before, text, offset⟩, groups⟩) :
    ∀ s' ∈ spanFrom set groups least most before offset text, P s' := by
  induction text generalizing least most before offset with
  | nil =>
    rw [Pattern.spanFrom]
    split
    · exact List.forall_mem_singleton.2 hs
    · exact List.forall_mem_nil _
  | cons c text ih =>
    simp only [Pattern.spanFrom]
    -- the span stops here, goes on, or both
    have hfurther : ∀ s' ∈ (if most ≠ some 0 ∧ set.mem c then
        Pattern.spanFrom set groups (least - 1) (most.map (· - 1)) (some c) (offset + 1) text else []),
        P s' := by
      split
      · exact ih _ _ _ _ (h.read hs)
      · exact List.forall_mem_nil _
    split
    · exact List.forall_mem_cons.2 ⟨hs, hfurther⟩
    · exact hfurther

/-- **Wherever a pattern can end, the property holds.** -/
theorem results (n : Node) : Keeps P n.results := by
  induction n with
  | empty => exact fun s hs => List.forall_mem_singleton.2 hs
  | one set => exact h.oneResult set
  | check a =>
    intro s hs
    rw [Node.results]
    split
    · exact List.forall_mem_singleton.2 hs
    · exact List.forall_mem_nil _
  | group index body ih =>
    intro s hs s' hs'
    obtain ⟨t, ht, rfl⟩ := List.mem_map.1 hs'
    exact h.remember index hs (ih s hs t ht)
  | seq first second ih₁ ih₂ =>
    exact fun s hs => forall_distinct (ih₂.forall_flatMap (ih₁ s hs))
  | alt first second ih₁ ih₂ =>
    exact fun s hs => forall_distinct (List.forall_mem_append.2 ⟨ih₁ s hs, ih₂ s hs⟩)
  | span set least most greedy =>
    intro s hs s' hs'
    refine h.spanFrom set s.groups least most s.cursor.before s.cursor.offset s.cursor.rest hs s' ?_
    rw [Node.results, spanResults] at hs'
    cases greedy <;> simpa using hs'
  | loop body least most greedy ih => exact ih.loopResults greedy least most

/-- The search for a match gives up a place only by reading its character. -/
theorem searchFrom {n : Node} {before : Option Char} {offset : Nat} {text : List Char} {s : State}
    (hstart : P ⟨⟨before, text, offset⟩, []⟩) (hs : searchFrom n before offset text = some s) : P s := by
  induction text generalizing before offset with
  | nil => exact h.results n _ hstart s (List.mem_of_head? hs)
  | cons c text ih =>
    rw [Pattern.searchFrom] at hs
    split at hs
    · next s' hs' =>
      obtain rfl := Option.some.inj hs
      exact h.results n _ hstart s' (List.mem_of_head? hs')
    · exact ih (h.read hstart) hs

/-- The property holds where the leftmost match ends. -/
theorem firstMatch {n : Node} {text : List Char} {s : State} (hstart : P ⟨Cursor.start text, []⟩)
    (hs : firstMatch n text = some s) : P s := h.searchFrom hstart hs

end Invariant

/-! ## Stretches of a text -/

/-- What is left and all that the groups matched are stretches of a text. -/
structure State.Within (text : List Char) (s : State) : Prop where
  /-- What is left stands at the end of the text. -/
  rest : s.cursor.rest <:+ text
  /-- What a group matched is a stretch of it. -/
  groups : ∀ g ∈ s.groups, g.2.text <:+: text

theorem invariant_within (text : List Char) : Invariant (State.Within text) where
  read h := ⟨(List.suffix_cons _ _).trans h.rest, h.groups⟩
  remember {s s'} index h h' := by
    refine ⟨h'.rest, List.forall_mem_cons.2 ⟨?_, h'.groups⟩⟩
    -- the group matched a beginning of what was left before
    have hfront : (⟨s.cursor.rest, s'.offset - s.offset⟩ : Extent).text <+: s.cursor.rest :=
      List.take_prefix _ _
    exact hfront.isInfix.trans h.rest.isInfix

end Pattern

/-- **What a named group matched is a stretch of the text.** -/
theorem isInfix_of_captures {p : Pattern} {text : List Char} {c : Captures} (h : p.captures text = some c)
    {name value : String} (hvalue : c.get? name = some value) : value.toList <:+: text := by
  rw [Pattern.captures, Option.map_eq_some_iff] at h
  obtain ⟨s, hs, rfl⟩ := h
  have hwithin : s.Within text := (Pattern.invariant_within text).firstMatch
    ⟨List.suffix_rfl, List.forall_mem_nil _⟩ hs
  rw [Captures.get?] at hvalue
  split at hvalue
  · cases hvalue
  · next index _ =>
    simp only [Captures.group?, Option.map_map, Option.map_eq_some_iff] at hvalue
    obtain ⟨e, he, rfl⟩ := hvalue
    obtain ⟨before, after, heq, -⟩ := List.lookup_eq_some_iff.1 he
    have hmem : (index, e) ∈ s.groups := by
      rw [heq]
      exact List.mem_append_right _ List.mem_cons_self
    simpa using hwithin.groups _ hmem

end TraceDiagram
