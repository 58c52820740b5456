import TraceDiagram.Text.Scan

/-! # What steps that read texts do

One lemma for each way in which a step is made of others, for the case that the first part reads something
and for the case that it fails.

* **`bind_of_some`**, **`orElse_of_none`** and their siblings follow a step from part to part.
* **`firstOf_of_none`** passes over an alternative; **`many_of_none`** ends a repetition, and
  **`manyUpTo_of_some`** goes on with it. **`Repeats`** is a repetition as a whole.
* **`exactly_append`** and **`exactly_of_ne`** settle whether given characters stand here;
  **`StartsWithout`** says which characters do not. -/

namespace TraceDiagram.Text.Scan

variable {α β : Type} {p : Scan α} {q : Scan β} {cs rest : List Char} {a : α}

/-! ## Sequences -/

theorem pure_eq (a : α) (cs : List Char) : (pure a : Scan α) cs = some (a, cs) := rfl

theorem bind_of_some (h : p cs = some (a, rest)) (f : α → Scan β) : (p >>= f) cs = f a rest := by
  change (p cs).bind (fun x => f x.1 x.2) = _
  rw [h, Option.bind_some]

theorem bind_of_none (h : p cs = none) (f : α → Scan β) : (p >>= f) cs = none := by
  change (p cs).bind (fun x => f x.1 x.2) = _
  rw [h, Option.bind_none]

theorem map_of_some (h : p cs = some (a, rest)) (f : α → β) : (f <$> p) cs = some (f a, rest) := by
  change (p cs).bind (fun x => some (f x.1, x.2)) = _
  rw [h, Option.bind_some]

theorem map_of_none (h : p cs = none) (f : α → β) : (f <$> p) cs = none := by
  change (p cs).bind (fun x => some (f x.1, x.2)) = _
  rw [h, Option.bind_none]

theorem seqRight_of_some (h : p cs = some (a, rest)) (q : Scan β) : (p *> q) cs = q rest :=
  bind_of_some h _

theorem seqRight_of_none (h : p cs = none) (q : Scan β) : (p *> q) cs = none := bind_of_none h _

theorem seqLeft_of_some (h : p cs = some (a, rest)) {b : β} {rest' : List Char}
    (hq : q rest = some (b, rest')) : (p <* q) cs = some (a, rest') :=
  (bind_of_some h _).trans (bind_of_some hq _)

theorem seqLeft_of_none (h : p cs = none) (q : Scan β) : (p <* q) cs = none := bind_of_none h _

theorem seq_of_none {f : Scan (α → β)} (h : f cs = none) (p : Scan α) : (f <*> p) cs = none :=
  bind_of_none h _

/-! ## Alternatives -/

theorem orElse_of_some {p' : Scan α} (h : p cs = some (a, rest)) : (p <|> p') cs = some (a, rest) := by
  change (p cs).orElse (fun _ => p' cs) = _
  rw [h]
  rfl

theorem orElse_of_none (h : p cs = none) (p' : Scan α) : (p <|> p') cs = p' cs := by
  change (p cs).orElse (fun _ => p' cs) = _
  rw [h]
  rfl

theorem firstOf_of_some {ps : List (Scan α)} (h : p cs = some (a, rest)) :
    firstOf (p :: ps) cs = some (a, rest) := orElse_of_some h

theorem firstOf_of_none (h : p cs = none) (ps : List (Scan α)) :
    firstOf (p :: ps) cs = firstOf ps cs := orElse_of_none h _

/-- The last alternative decides where all others fail. -/
theorem firstOf_singleton (p : Scan α) (cs : List Char) : firstOf [p] cs = p cs := by
  cases h : p cs with
  | none => exact orElse_of_none h _
  | some r => exact orElse_of_some h

/-- Where all alternatives fail, so does their choice. -/
theorem firstOf_eq_none {ps : List (Scan α)} (h : ∀ p ∈ ps, p cs = none) : firstOf ps cs = none := by
  induction ps with
  | nil => rfl
  | cons p ps ih =>
    rw [firstOf_of_none (h p List.mem_cons_self)]
    exact ih fun p hp => h p (List.mem_cons_of_mem _ hp)

/-- A step that fails is not there. -/
theorem present_of_none {p : Scan Unit} (h : p cs = none) : present p cs = some (false, cs) := by
  rw [present, orElse_of_none (seqRight_of_none h _), pure_eq]

theorem optional_of_some (h : p cs = some (a, rest)) : (optional p) cs = some (some a, rest) :=
  orElse_of_some (map_of_some h some)

theorem optional_of_none (h : p cs = none) : (optional p) cs = some (none, cs) :=
  (orElse_of_none (map_of_none h some) _).trans rfl

/-! ## Repetition -/

/-- A repetition ends where its step fails. -/
theorem manyUpTo_of_none (h : p cs = none) (fuel : Nat) : manyUpTo p fuel cs = some ([], cs) := by
  cases fuel with
  | zero => rfl
  | succ fuel => simp only [manyUpTo, h]

theorem many_of_none (h : p cs = none) : many p cs = some ([], cs) := manyUpTo_of_none h _

/-- A repetition goes on where its step reads something. -/
theorem manyUpTo_of_some (h : p cs = some (a, rest)) {fuel : Nat} {as : List α} {rest' : List Char}
    (hmore : manyUpTo p fuel rest = some (as, rest')) :
    manyUpTo p (fuel + 1) cs = some (a :: as, rest') := by
  simp only [manyUpTo, h, hmore]

/-- A step reads some results one after the other, the first text through to the second, and then fails. -/
inductive Repeats (p : Scan α) : List α → List Char → List Char → Prop where
  /-- The step fails at once. -/
  | stop {cs : List Char} (h : p cs = none) : Repeats p [] cs cs
  /-- The step reads a result from at least one character, and goes on behind it. -/
  | next {front mid rest : List Char} {a : α} {as : List α} (hne : front ≠ [])
    (h : p (front ++ mid) = some (a, mid)) (more : Repeats p as mid rest) :
    Repeats p (a :: as) (front ++ mid) rest

theorem manyUpTo_of_repeats {as : List α} (h : Repeats p as cs rest) {fuel : Nat} (hfuel : cs.length < fuel) :
    manyUpTo p fuel cs = some (as, rest) := by
  induction h generalizing fuel with
  | stop h => exact manyUpTo_of_none h fuel
  | next hne h more ih =>
    rw [List.length_append] at hfuel
    have hfront := List.length_pos_iff.2 hne
    cases fuel with
    | zero => omega
    | succ fuel => exact manyUpTo_of_some h (ih (by omega))

/-- What a step reads one after the other is what its repetition reads. -/
theorem many_of_repeats {as : List α} (h : Repeats p as cs rest) : many p cs = some (as, rest) :=
  manyUpTo_of_repeats h (Nat.lt_succ_self _)

/-! ## Characters -/

theorem char_of_pos {kind : Char → Bool} {c : Char} (h : kind c = true) :
    char kind (c :: cs) = some (c, cs) := by
  rw [char, if_pos h]

theorem char_of_neg {kind : Char → Bool} {c : Char} (h : kind c = false) : char kind (c :: cs) = none := by
  rw [char, h]
  rfl

/-- So many characters of a kind are read one by one. -/
theorem count_char {kind : Char → Bool} {run : List Char} (h : ∀ c ∈ run, kind c = true) (rest : List Char) :
    count (char kind) run.length (run ++ rest) = some (run, rest) := by
  induction run with
  | nil => rfl
  | cons c run ih =>
    rw [List.length_cons, count, List.cons_append, bind_of_some (char_of_pos (h c List.mem_cons_self)),
      bind_of_some (ih fun d hd => h d (List.mem_cons_of_mem _ hd)), pure_eq]

/-- Where fewer characters of a kind stand in a row, so many are not read. -/
theorem count_char_of_lt {kind : Char → Bool} {n : Nat} (h : (cs.takeWhile kind).length < n) :
    count (char kind) n cs = none := by
  induction n generalizing cs with
  | zero => exact absurd h (Nat.not_lt_zero _)
  | succ n ih =>
    cases cs with
    | nil => exact bind_of_none rfl _
    | cons c cs =>
      cases hc : kind c with
      | false => exact bind_of_none (char_of_neg hc) _
      | true =>
        rw [List.takeWhile_cons_of_pos hc, List.length_cons, Nat.add_lt_add_iff_right] at h
        exact (bind_of_some (char_of_pos hc) _).trans (bind_of_none (ih h) _)

/-- The characters of a kind are read up to the first one of another kind. -/
theorem charsWhile_append {kind : Char → Bool} {run : List Char} (hrun : ∀ c ∈ run, kind c = true)
    (hrest : ∀ c ∈ rest.head?, kind c = false) : charsWhile kind (run ++ rest) = some (run, rest) := by
  have hnone : rest.takeWhile kind = [] ∧ rest.dropWhile kind = rest := by
    cases rest with
    | nil => exact ⟨rfl, rfl⟩
    | cons c rest =>
      have hc : kind c = false := hrest c rfl
      simp [hc]
  rw [charsWhile, List.takeWhile_append_of_pos hrun, List.dropWhile_append_of_pos hrun, hnone.1, hnone.2,
    List.append_nil]

/-- Given characters are read where they stand. -/
theorem exactly_append (word : String) (rest : List Char) :
    exactly word (word.toList ++ rest) = some ((), rest) := by
  have hfront : word.toList.isPrefixOf (word.toList ++ rest) = true :=
    List.isPrefixOf_iff_prefix.2 (List.prefix_append _ _)
  rw [exactly, if_pos hfront, List.drop_left]

/-- Given characters are not read where they do not stand. -/
theorem exactly_of_absent {word : String} (h : ¬word.toList <+: cs) : exactly word cs = none := by
  rw [exactly, if_neg]
  rwa [List.isPrefixOf_iff_prefix]

/-- Given characters are not read where another one than their first stands. -/
theorem exactly_of_ne {word : String} {c : Char} (h : ∃ d ∈ word.toList.head?, d ≠ c) :
    exactly word (c :: cs) = none := by
  obtain ⟨d, hd, hne⟩ := h
  refine exactly_of_absent fun hfront => hne ?_
  obtain ⟨ds, hword⟩ := List.head?_eq_some_iff.1 hd
  rw [hword] at hfront
  exact (List.cons_prefix_cons.1 hfront).1

/-- The first character of a text, if it has one, is none of the given ones. -/
def StartsWithout (marks cs : List Char) : Prop := ∀ c ∈ cs.head?, c ∉ marks

theorem StartsWithout.mono {marks marks' : List Char} (h : StartsWithout marks cs)
    (hsub : marks' ⊆ marks) : StartsWithout marks' cs :=
  fun c hc hmem => h c hc (hsub hmem)

/-- Given characters are not read from a text that does not begin with their first. -/
theorem exactly_of_startsWithout {word : String} {c : Char} (hword : word.toList.head? = some c)
    (h : StartsWithout [c] cs) : exactly word cs = none := by
  refine exactly_of_absent fun hfront => h c ?_ List.mem_cons_self
  obtain ⟨ds, hds⟩ := List.head?_eq_some_iff.1 hword
  obtain ⟨rest, rfl⟩ := hfront
  rw [hds]
  rfl

end TraceDiagram.Text.Scan
