import Mathlib.Data.List.Basic

/-! # Matching of brackets

Sequences of opening and closing brackets with other things in between, and which brackets belong together.

* **`Bracket.Balanced`** the sequences in which every bracket has its partner.
* **`Bracket.Closes`** a closing bracket belongs to an opening one: what stands between them is balanced.
* **`Bracket.Open`** an opening bracket without partner; **`Bracket.Innermost`** the last one of these.
* **`innermost_iff`** an open bracket is the innermost one exactly if all behind it is balanced.
* **`ListsOpen`** a list of the open brackets, the innermost first, with what one bracket more does to it. -/

namespace TraceDiagram

/-- An opening or a closing bracket, or neither. -/
inductive Bracket where
  /-- An opening bracket. -/
  | opening
  /-- A closing bracket. -/
  | closing
  /-- Something else. -/
  | neutral
  deriving DecidableEq, Repr

namespace Bracket

/-- The sequences in which every bracket has its partner. -/
inductive Balanced : List Bracket → Prop
  /-- Nothing at all. -/
  | nil : Balanced []
  /-- Something else in front. -/
  | neutral {rest : List Bracket} : Balanced rest → Balanced (.neutral :: rest)
  /-- A pair of brackets in front. -/
  | pair {inner rest : List Bracket} :
      Balanced inner → Balanced rest → Balanced (.opening :: (inner ++ .closing :: rest))

/-- The closing bracket at place `j` belongs to the opening one at place `i`. -/
def Closes (bs : List Bracket) (i j : Nat) : Prop :=
  i < j ∧ bs[i]? = some .opening ∧ bs[j]? = some .closing ∧ Balanced ((bs.take j).drop (i + 1))

/-- At place `i` stands an opening bracket to which no closing one belongs. -/
def Open (bs : List Bracket) (i : Nat) : Prop := bs[i]? = some .opening ∧ ∀ j, ¬Closes bs i j

/-- At place `i` stands the last of the opening brackets without partner. -/
def Innermost (bs : List Bracket) (i : Nat) : Prop := Open bs i ∧ ∀ k, Open bs k → k ≤ i

/-! ## Balanced sequences -/

/-- In a balanced sequence each opening bracket has its partner behind it. -/
theorem Balanced.partner {bs : List Bracket} (h : Balanced bs) {k : Nat}
    (hk : bs[k]? = some .opening) :
    ∃ inner rest, bs.drop (k + 1) = inner ++ .closing :: rest ∧ Balanced inner := by
  induction h generalizing k with
  | nil => simp at hk
  | neutral _ ih =>
    cases k with
    | zero => simp at hk
    | succ k => exact ih (by simpa using hk)
  | @pair inner rest hinner _ ihinner ihrest =>
    cases k with
    | zero => exact ⟨inner, rest, rfl, hinner⟩
    | succ k =>
      rw [List.getElem?_cons_succ] at hk
      rw [List.drop_succ_cons]
      -- the place lies inside the pair, at its closing bracket, or behind it
      rcases Nat.lt_trichotomy k inner.length with hlt | rfl | hgt
      · rw [List.getElem?_append_left hlt] at hk
        obtain ⟨a, b, hab, ha⟩ := ihinner hk
        refine ⟨a, b ++ .closing :: rest, ?_, ha⟩
        rw [List.drop_append_of_le_length hlt, hab]
        simp
      · simp at hk
      · obtain ⟨m, rfl⟩ : ∃ m, k = inner.length + (m + 1) := ⟨k - inner.length - 1, by omega⟩
        rw [List.getElem?_append_right (by omega)] at hk
        obtain ⟨a, b, hab, ha⟩ := ihrest (k := m) (by simpa using hk)
        refine ⟨a, b, ?_, ha⟩
        rw [Nat.add_assoc, List.drop_length_add_append]
        exact hab

/-- A pair of brackets may stand in front of any beginning of a balanced sequence. -/
theorem Balanced.cons_pair_append {inner front : List Bracket} (hinner : Balanced inner)
    (hfront : Balanced front) (rest : List Bracket) :
    ∃ whole, Balanced whole ∧
      .opening :: (inner ++ .closing :: (front ++ rest)) = whole ++ rest :=
  ⟨_, .pair hinner hfront, by simp⟩

/-- **Three kinds of sequences.** A sequence is balanced, or behind a balanced front it goes on with a
closing bracket, or with an opening one that has no partner. -/
theorem balanced_or (bs : List Bracket) :
    Balanced bs ∨
    (∃ front rest, bs = front ++ .closing :: rest ∧ Balanced front) ∨
    ∃ front rest, bs = front ++ .opening :: rest ∧ Balanced front ∧
      ∀ inner rest', rest = inner ++ .closing :: rest' → ¬Balanced inner := by
  -- by induction on the length: behind a pair the rest is shorter, though no tail of the sequence
  induction hn : bs.length using Nat.strongRecOn generalizing bs with
  | ind n ih =>
    subst hn
    match bs with
    | [] => exact .inl .nil
    | .closing :: rest => exact .inr (.inl ⟨[], rest, rfl, .nil⟩)
    | .neutral :: rest =>
      rcases ih rest.length (by simp) rest rfl with h | ⟨front, rest', rfl, h⟩ |
        ⟨front, rest', rfl, h, hlone⟩
      · exact .inl (.neutral h)
      · exact .inr (.inl ⟨.neutral :: front, rest', rfl, .neutral h⟩)
      · exact .inr (.inr ⟨.neutral :: front, rest', rfl, .neutral h, hlone⟩)
    | .opening :: rest =>
      by_cases hpair : ∃ inner behind, rest = inner ++ .closing :: behind ∧ Balanced inner
      · obtain ⟨inner, behind, rfl, hinner⟩ := hpair
        have hlt : behind.length < (Bracket.opening :: (inner ++ .closing :: behind)).length := by
          simp only [List.length_cons, List.length_append]
          omega
        rcases ih behind.length hlt behind rfl with h | ⟨front, rest', rfl, h⟩ |
          ⟨front, rest', rfl, h, hlone⟩
        · exact .inl (.pair hinner h)
        · obtain ⟨whole, hwhole, he⟩ := hinner.cons_pair_append h (.closing :: rest')
          exact .inr (.inl ⟨whole, rest', he, hwhole⟩)
        · obtain ⟨whole, hwhole, he⟩ := hinner.cons_pair_append h (.opening :: rest')
          exact .inr (.inr ⟨whole, rest', he, hwhole, hlone⟩)
      · exact .inr (.inr ⟨[], rest, rfl, .nil, fun inner rest' he hb => hpair ⟨inner, rest', he, hb⟩⟩)

/-! ## Open brackets -/

/-- An opening bracket is open exactly if what stands behind it never is a balanced sequence followed by a
closing bracket. -/
theorem open_iff (bs : List Bracket) (i : Nat) :
    Open bs i ↔ bs[i]? = some .opening ∧
      ∀ inner rest, bs.drop (i + 1) = inner ++ .closing :: rest → ¬Balanced inner := by
  refine and_congr_right fun hi => ⟨fun h inner rest he hb => ?_, fun h j hj => ?_⟩
  · refine h (i + 1 + inner.length) ⟨by omega, hi, ?_, ?_⟩
    · rw [← List.getElem?_drop, he]
      simp
    · rw [List.drop_take, Nat.add_sub_cancel_left, he]
      simpa using hb
  · obtain ⟨hij, -, hclosing, hb⟩ := hj
    refine h ((bs.take j).drop (i + 1)) (bs.drop (j + 1)) ?_ hb
    obtain ⟨hlt, hget⟩ := List.getElem?_eq_some_iff.1 hclosing
    rw [← hget, ← List.drop_eq_getElem_cons hlt]
    rw [List.drop_take]
    conv_lhs => rw [← List.take_append_drop (j - (i + 1)) (bs.drop (i + 1))]
    rw [List.drop_drop, show i + 1 + (j - (i + 1)) = j by omega]

/-- **An open bracket is the innermost one exactly if all behind it is balanced.** -/
theorem innermost_iff (bs : List Bracket) (i : Nat) :
    Innermost bs i ↔ Open bs i ∧ Balanced (bs.drop (i + 1)) := by
  refine and_congr_right fun hopen => ⟨fun hlast => ?_, fun hb k hk => ?_⟩
  · rcases balanced_or (bs.drop (i + 1)) with h | ⟨front, rest, he, h⟩ | ⟨front, rest, he, h, hlone⟩
    · exact h
    · exact absurd h (((open_iff bs i).1 hopen).2 front rest he)
    · -- the lone opening bracket would be an open one further in
      have hk : Open bs (i + 1 + front.length) := by
        refine (open_iff _ _).2 ⟨?_, ?_⟩
        · rw [← List.getElem?_drop, he]
          simp
        · rw [Nat.add_assoc, ← List.drop_drop, he, List.drop_length_add_append]
          exact hlone
      exact absurd (hlast _ hk) (by omega)
  · by_contra hlt
    obtain ⟨m, rfl⟩ : ∃ m, k = i + 1 + m := ⟨k - (i + 1), by omega⟩
    obtain ⟨hget, hnone⟩ := (open_iff _ _).1 hk
    rw [← List.getElem?_drop] at hget
    obtain ⟨inner, rest, he, hinner⟩ := hb.partner hget
    rw [List.drop_drop, ← Nat.add_assoc] at he
    exact hnone inner rest he hinner

/-! ## One bracket more -/

/-- The pairs of a sequence with one bracket more are those that were there, and perhaps one that the new
bracket completes. -/
theorem closes_concat (bs : List Bracket) (b : Bracket) (i j : Nat) :
    Closes (bs ++ [b]) i j ↔ Closes bs i j ∨
      (j = bs.length ∧ b = .closing ∧ bs[i]? = some .opening ∧ Balanced (bs.drop (i + 1))) := by
  rcases Nat.lt_trichotomy j bs.length with hlt | rfl | hgt
  · have hne : j ≠ bs.length := by omega
    simp only [Closes, hne, false_and, or_false]
    refine and_congr_right fun hij => ?_
    rw [List.getElem?_append_left (by omega), List.getElem?_append_left hlt,
      List.take_append_of_le_length (by omega)]
  · simp only [Closes, List.take_left', true_and]
    constructor
    · rintro ⟨hij, hi, hj, hb⟩
      rw [List.getElem?_append_left hij] at hi
      exact .inr ⟨by simpa using hj, hi, hb⟩
    · rintro (⟨-, -, hj, -⟩ | ⟨rfl, hi, hb⟩)
      · simp at hj
      · obtain ⟨hij, -⟩ := List.getElem?_eq_some_iff.1 hi
        exact ⟨hij, by rw [List.getElem?_append_left hij]; exact hi, by simp, hb⟩
  · have hne : j ≠ bs.length := by omega
    simp only [Closes, hne, false_and, or_false]
    have hnone : bs[j]? = none := by simp; omega
    have hnone' : (bs ++ [b])[j]? = none := by simp; omega
    simp [hnone, hnone']

/-- What is open with one bracket more: a new opening bracket, and what was open, unless the new bracket
closes it. -/
theorem open_concat (bs : List Bracket) (b : Bracket) (i : Nat) :
    Open (bs ++ [b]) i ↔
      (i = bs.length ∧ b = .opening) ∨ (Open bs i ∧ ¬(b = .closing ∧ Innermost bs i)) := by
  simp only [Open, closes_concat, innermost_iff]
  rcases Nat.lt_trichotomy i bs.length with hlt | rfl | hgt
  · rw [List.getElem?_append_left hlt]
    constructor
    · rintro ⟨hi, h⟩
      have hnone : ∀ j, ¬Closes bs i j := fun j hj => h j (.inl hj)
      exact .inr ⟨⟨hi, hnone⟩, fun hb => h bs.length (.inr ⟨rfl, hb.1, hi, hb.2.2⟩)⟩
    · rintro (⟨rfl, -⟩ | ⟨⟨hi, hnone⟩, hb⟩)
      · omega
      · refine ⟨hi, ?_⟩
        rintro j (hj | ⟨-, hclosing, -, hbal⟩)
        · exact hnone j hj
        · exact hb ⟨hclosing, ⟨hi, hnone⟩, hbal⟩
  · simp [Closes]
  · have hne : i ≠ bs.length := by omega
    have hnone : bs[i]? = none := by simp; omega
    have hnone' : (bs ++ [b])[i]? = none := by simp; omega
    simp [hne, hnone, hnone']

/-- `places` lists the open brackets, the innermost first. -/
def ListsOpen (bs : List Bracket) (places : List Nat) : Prop :=
  places.Pairwise (· > ·) ∧ ∀ i, i ∈ places ↔ Open bs i

theorem listsOpen_nil : ListsOpen [] [] := ⟨.nil, fun i => by simp [Open]⟩

namespace ListsOpen

variable {bs : List Bracket} {places : List Nat}

/-- Without open brackets the list is empty. -/
theorem eq_nil_iff (h : ListsOpen bs places) : places = [] ↔ ∀ i, ¬Open bs i := by
  simp only [← h.2, List.eq_nil_iff_forall_not_mem]

/-- The first place of the list is that of the innermost open bracket. -/
theorem innermost_iff_head {place : Nat} (h : ListsOpen bs (place :: places)) (i : Nat) :
    Innermost bs i ↔ i = place := by
  obtain ⟨hsorted, hmem⟩ := h
  rw [List.pairwise_cons] at hsorted
  have hplace : Innermost bs place := by
    refine ⟨(hmem place).1 (by simp), fun k hk => ?_⟩
    rcases List.mem_cons.1 ((hmem k).2 hk) with rfl | hk
    · exact Nat.le_refl _
    · exact Nat.le_of_lt (hsorted.1 k hk)
  exact ⟨fun hi => Nat.le_antisymm (hplace.2 i hi.1) (hi.2 place hplace.1), fun hi => hi ▸ hplace⟩

/-- Something else changes nothing. -/
theorem neutral (h : ListsOpen bs places) : ListsOpen (bs ++ [.neutral]) places :=
  ⟨h.1, fun i => by simp [open_concat, h.2]⟩

/-- An opening bracket comes first. -/
theorem opening (h : ListsOpen bs places) : ListsOpen (bs ++ [.opening]) (bs.length :: places) := by
  refine ⟨List.pairwise_cons.2 ⟨fun i hi => ?_, h.1⟩, fun i => by simp [open_concat, h.2]⟩
  exact (List.getElem?_eq_some_iff.1 ((h.2 i).1 hi).1).1

/-- A closing bracket takes the first place away, if there is one. -/
theorem closing (h : ListsOpen bs places) : ListsOpen (bs ++ [.closing]) places.tail := by
  cases places with
  | nil =>
    have hnone := h.eq_nil_iff.1 rfl
    exact ⟨.nil, fun i => by simp [open_concat, hnone i]⟩
  | cons place places =>
    refine ⟨h.1.tail, fun i => ?_⟩
    have hhead := h.innermost_iff_head i
    obtain ⟨hsorted, hmem⟩ := h
    rw [List.pairwise_cons] at hsorted
    rw [open_concat, hhead, ← hmem i, List.mem_cons, List.tail_cons]
    constructor
    · intro hi
      have hlt := hsorted.1 i hi
      exact .inr ⟨.inr hi, fun hb => by omega⟩
    · rintro (⟨-, hb⟩ | ⟨rfl | hi, hb⟩)
      · cases hb
      · exact absurd ⟨rfl, rfl⟩ hb
      · exact hi

end ListsOpen

end Bracket

end TraceDiagram
