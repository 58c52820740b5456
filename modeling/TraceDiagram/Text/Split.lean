import TraceDiagram.Text.Blank

/-! # Splitting at a separator

* **`splitOnce?`** cuts at the first occurrence of a separator.
* **`split`** cuts at every occurrence; the empty separator occurs before, between and after all characters.
  **`split_append_cons`** cuts at any occurrence of one character, and **`isInfix_of_mem_split`** each piece is a
  stretch of the text.
* **`occursIn`** whether a separator occurs: **`occursIn_iff_isInfix`**.
* **`join`** puts pieces together, **`replaceAll`** splits and joins again; by **`split_join`** joined texts are
  split where they are joined, and by **`join_injective`** the pieces can be told from the whole.
-/

namespace TraceDiagram.Text

/-- What stands before and after the first occurrence of `sep`. -/
def splitOnce? (sep : List Char) : List Char → Option (List Char × List Char)
  | [] => if sep.isEmpty then some ([], []) else none
  | c :: cs =>
    if sep.isPrefixOf (c :: cs) then some ([], (c :: cs).drop sep.length)
    else (splitOnce? sep cs).map fun p => (c :: p.1, p.2)

/-- What stands before and after a separator makes up the text with it. -/
theorem splitOnce?_eq_some {sep cs before after : List Char}
    (h : splitOnce? sep cs = some (before, after)) : cs = before ++ sep ++ after := by
  induction cs generalizing before with
  | nil =>
    rw [splitOnce?] at h
    split at h
    · next hsep =>
      obtain ⟨rfl, rfl⟩ := Prod.mk.inj (Option.some.inj h)
      rw [List.isEmpty_iff.1 hsep]
      rfl
    · cases h
  | cons c cs ih =>
    rw [splitOnce?] at h
    split at h
    · next hsep =>
      obtain ⟨rfl, rfl⟩ := Prod.mk.inj (Option.some.inj h)
      obtain ⟨rest, hrest⟩ := List.isPrefixOf_iff_prefix.1 hsep
      rw [← hrest, List.drop_left, List.nil_append]
    · obtain ⟨⟨front, back⟩, hcut, heq⟩ := Option.map_eq_some_iff.1 h
      obtain ⟨rfl, rfl⟩ := Prod.mk.inj heq
      rw [ih hcut]
      rfl

/-- Whether `sep` occurs. -/
def occursIn (sep cs : List Char) : Bool := (splitOnce? sep cs).isSome

/-- A separator occurs if it is a stretch of the text. -/
theorem occursIn_iff_isInfix (sep cs : List Char) : occursIn sep cs = true ↔ sep <:+: cs := by
  rw [occursIn]
  induction cs with
  | nil => cases sep <;> simp [splitOnce?]
  | cons c cs ih =>
    rw [splitOnce?, List.infix_cons_iff, ← ih, ← List.isPrefixOf_iff_prefix]
    by_cases h : sep.isPrefixOf (c :: cs) = true <;> simp [h]

/-- The pieces between occurrences of a separator, reading from the left; the next `skip` characters
belong to an occurrence that has already been seen. -/
def splitFrom (sep : List Char) : Nat → List Char → List (List Char)
  | _, [] => [[]]
  | skip + 1, _ :: cs => splitFrom sep skip cs
  | 0, c :: cs =>
    if sep.isPrefixOf (c :: cs) then [] :: splitFrom sep (sep.length - 1) cs
    else consFirst c (splitFrom sep 0 cs)

/-- The pieces between the occurrences of `sep`. -/
def split (sep cs : List Char) : List (List Char) :=
  if sep.isEmpty then [] :: cs.map ([·]) ++ [[]] else splitFrom sep 0 cs

/-- The first piece begins where the text does. -/
theorem head?_splitFrom_isPrefix (sep cs : List Char) :
    ∀ piece ∈ (splitFrom sep 0 cs).head?, piece <+: cs := by
  induction cs with
  | nil => simp [splitFrom]
  | cons c cs ih =>
    intro piece hpiece
    rw [splitFrom] at hpiece
    split at hpiece
    · rw [← Option.mem_some_iff.1 hpiece]
      exact List.nil_prefix
    · cases hmore : splitFrom sep 0 cs with
      | nil =>
        rw [hmore] at hpiece
        rw [← Option.mem_some_iff.1 hpiece]
        simp
      | cons first rest =>
        rw [hmore] at hpiece ih
        rw [← Option.mem_some_iff.1 hpiece, List.cons_prefix_cons]
        exact ⟨rfl, ih first rfl⟩

theorem isInfix_of_mem_splitFrom {sep cs piece : List Char} {skip : Nat}
    (h : piece ∈ splitFrom sep skip cs) : piece <:+: cs := by
  induction cs generalizing skip with
  | nil =>
    cases skip <;> simpa [splitFrom] using h
  | cons c cs ih =>
    cases skip with
    | succ skip => exact (ih h).trans (List.suffix_cons c cs).isInfix
    | zero =>
      have hfirst := head?_splitFrom_isPrefix sep (c :: cs)
      rw [splitFrom] at h hfirst
      split at h
      · rcases List.mem_cons.1 h with rfl | h
        · exact List.nil_infix
        · exact (ih h).trans (List.suffix_cons c cs).isInfix
      · next hsep =>
        -- the first piece is longer by the character, and the others are as before
        rw [if_neg hsep] at hfirst
        cases hmore : splitFrom sep 0 cs with
        | nil =>
          rw [hmore] at h hfirst
          rw [List.mem_singleton.1 h]
          exact (hfirst [c] rfl).isInfix
        | cons first rest =>
          rw [hmore] at h hfirst
          rcases List.mem_cons.1 h with rfl | h
          · exact (hfirst _ rfl).isInfix
          · have hrest : piece ∈ splitFrom sep 0 cs := by
              rw [hmore]
              exact List.mem_cons_of_mem _ h
            exact (ih hrest).trans (List.suffix_cons c cs).isInfix

/-- Each piece is a stretch of the text. -/
theorem isInfix_of_mem_split {sep cs piece : List Char} (h : piece ∈ split sep cs) : piece <:+: cs := by
  rw [split] at h
  split at h
  · rw [List.cons_append, List.mem_cons, List.mem_append, List.mem_singleton, List.mem_map] at h
    rcases h with rfl | ⟨c, hc, rfl⟩ | rfl
    · exact List.nil_infix
    · obtain ⟨before, after, rfl⟩ := List.append_of_mem hc
      exact ⟨before, after, by simp⟩
    · exact List.nil_infix
  · exact isInfix_of_mem_splitFrom h

/-! ## Separators of one character -/

section OneCharacter

variable {c : Char} {piece : List Char}

/-- A text is cut at the first occurrence of a character. -/
theorem splitOnce?_append (h : c ∉ piece) (rest : List Char) :
    splitOnce? [c] (piece ++ c :: rest) = some (piece, rest) := by
  induction piece with
  | nil => simp [splitOnce?]
  | cons d piece ih =>
    have hd : c ≠ d := fun e => h (e ▸ List.mem_cons_self)
    have hpiece : c ∉ piece := fun hc => h (List.mem_cons_of_mem d hc)
    simp [splitOnce?, hd, ih hpiece]

/-- Where a text is cut at the first occurrence of a character is settled by the text. -/
theorem cut_unique {other rest after : List Char} (h : c ∉ piece) (hother : c ∉ other)
    (heq : piece ++ c :: rest = other ++ c :: after) : piece = other ∧ rest = after := by
  have hcut := congrArg (splitOnce? [c]) heq
  rw [splitOnce?_append h, splitOnce?_append hother] at hcut
  exact Prod.mk.inj (Option.some.inj hcut)

/-- A text without the separator is one piece. -/
theorem split_of_not_mem (h : c ∉ piece) : split [c] piece = [piece] := by
  simp only [split, List.isEmpty_cons, Bool.false_eq_true, if_false]
  induction piece with
  | nil => rfl
  | cons d piece ih =>
    have hd : c ≠ d := fun e => h (e ▸ List.mem_cons_self)
    have hpiece : c ∉ piece := fun hc => h (List.mem_cons_of_mem d hc)
    simp [splitFrom, hd, ih hpiece, consFirst]

theorem split_ne_nil (c : Char) (cs : List Char) : split [c] cs ≠ [] := by
  simp only [split, List.isEmpty_cons, Bool.false_eq_true, if_false]
  cases cs with
  | nil => simp [splitFrom]
  | cons d cs =>
    rw [splitFrom]
    split
    · simp
    · cases splitFrom [c] 0 cs <;> simp [consFirst]

/-- A separator divides the pieces in front of it from those behind it. -/
theorem split_append_cons (c : Char) (before after : List Char) :
    split [c] (before ++ c :: after) = split [c] before ++ split [c] after := by
  induction before with
  | nil => simp [split, splitFrom]
  | cons d before ih =>
    obtain ⟨first, rest, hbefore⟩ := List.exists_cons_of_ne_nil (split_ne_nil c before)
    by_cases hd : c = d
    · subst hd
      simpa [split, splitFrom] using ih
    · rw [hbefore] at ih
      simp only [split, List.isEmpty_cons, Bool.false_eq_true, if_false] at ih hbefore ⊢
      simp [splitFrom, hd, ih, hbefore, consFirst]

/-- The first piece ends at the first separator. -/
theorem split_append (h : c ∉ piece) (rest : List Char) :
    split [c] (piece ++ c :: rest) = piece :: split [c] rest := by
  rw [split_append_cons, split_of_not_mem h]
  rfl

/-- The pieces are without the separator. -/
theorem not_mem_of_mem_split {cs : List Char} (h : piece ∈ split [c] cs) : c ∉ piece := by
  by_cases hc : c ∈ cs
  · obtain ⟨before, after, hcs, hbefore⟩ := List.eq_append_cons_of_mem hc
    rw [hcs, split_append hbefore, List.mem_cons] at h
    rcases h with rfl | hafter
    · exact hbefore
    · exact not_mem_of_mem_split hafter
  · rw [split_of_not_mem hc, List.mem_singleton] at h
    rwa [h]
termination_by cs.length
decreasing_by
  rw [hcs, List.length_append, List.length_cons]
  omega

end OneCharacter

/-- The pieces with `sep` between them. -/
def join (sep : List Char) : List (List Char) → List Char
  | [] => []
  | [piece] => piece
  | piece :: rest => piece ++ sep ++ join sep rest

/-- A character of joined pieces stands in one of them or in a separator. -/
theorem mem_of_mem_join {sep : List Char} {pieces : List (List Char)} {c : Char}
    (h : c ∈ join sep pieces) : c ∈ sep ∨ ∃ piece ∈ pieces, c ∈ piece := by
  induction pieces with
  | nil => cases h
  | cons piece pieces ih =>
    cases pieces with
    | nil => exact .inr ⟨piece, List.mem_cons_self, h⟩
    | cons second pieces =>
      rw [join, List.mem_append, List.mem_append] at h
      · rcases h with (h | h) | h
        · exact .inr ⟨piece, List.mem_cons_self, h⟩
        · exact .inl h
        · rcases ih h with hsep | ⟨other, hother, hc⟩
          · exact .inl hsep
          · exact .inr ⟨other, List.mem_cons_of_mem _ hother, hc⟩
      · simp

theorem join_cons_cons (sep piece next : List Char) (pieces : List (List Char)) :
    join sep (piece :: next :: pieces) = piece ++ (sep ++ join sep (next :: pieces)) :=
  List.append_assoc piece sep _

/-- What the first piece begins with is what the whole begins with. -/
theorem join_append_cons (sep front piece : List Char) (pieces : List (List Char)) :
    join sep ((front ++ piece) :: pieces) = front ++ join sep (piece :: pieces) := by
  cases pieces with
  | nil => rfl
  | cons next pieces => rw [join_cons_cons, join_cons_cons, List.append_assoc]

/-- What a separator has behind its first character may as well stand in front of the next piece. -/
theorem join_separator_cons (c : Char) (sep piece : List Char) (pieces : List (List Char)) :
    join (c :: sep) (piece :: pieces) = join [c] (piece :: pieces.map (sep ++ ·)) := by
  induction pieces generalizing piece with
  | nil => rfl
  | cons next pieces ih =>
    rw [List.map_cons, join_cons_cons, join_cons_cons, join_append_cons, ih next]
    rfl

/-- Joined texts are split where they are joined, and where they are split themselves. -/
theorem split_join (c : Char) {texts : List (List Char)} (hne : texts ≠ []) :
    split [c] (join [c] texts) = texts.flatMap (split [c]) := by
  induction texts with
  | nil => exact absurd rfl hne
  | cons text texts ih =>
    cases texts with
    | nil => rw [join, List.flatMap_singleton]
    | cons next texts =>
      rw [join_cons_cons, List.singleton_append, split_append_cons, ih (List.cons_ne_nil _ _)]
      rfl

/-- Pieces can be told from what they are joined to, if the separator begins with a character that none of
them has. No piece at all and one empty piece look alike, so there has to be one. -/
theorem join_injective {c : Char} {sep : List Char} {pieces others : List (List Char)}
    (hpieces : ∀ piece ∈ pieces, c ∉ piece) (hothers : ∀ other ∈ others, c ∉ other)
    (hne : pieces ≠ []) (hne' : others ≠ []) (h : join (c :: sep) pieces = join (c :: sep) others) :
    pieces = others := by
  induction pieces generalizing others with
  | nil => exact absurd rfl hne
  | cons piece pieces ih =>
    obtain ⟨other, others, rfl⟩ := List.exists_cons_of_ne_nil hne'
    rw [List.forall_mem_cons] at hpieces hothers
    obtain ⟨hpiece, hpieces⟩ := hpieces
    obtain ⟨hother, hothers⟩ := hothers
    -- a separator behind the first piece of either list stands there in the other one, too
    have hsecond : ∀ {first : List Char} {more : List (List Char)}, more ≠ [] →
        c ∈ join (c :: sep) (first :: more) := by
      intro first more hmore
      obtain ⟨second, more, rfl⟩ := List.exists_cons_of_ne_nil hmore
      simp [join]
    cases pieces with
    | nil =>
      cases others with
      | nil => exact congrArg (fun p => [p]) h
      | cons second others =>
        have hmem : c ∈ join (c :: sep) [piece] := h ▸ hsecond (List.cons_ne_nil _ _)
        exact absurd hmem hpiece
    | cons next pieces =>
      cases others with
      | nil =>
        have hmem : c ∈ join (c :: sep) [other] := h ▸ hsecond (List.cons_ne_nil _ _)
        exact absurd hmem hother
      | cons second others =>
        simp only [join, List.append_assoc, List.cons_append] at h
        obtain ⟨rfl, hrest⟩ := cut_unique hpiece hother h
        have hmore := List.append_cancel_left hrest
        rw [ih hpieces hothers (List.cons_ne_nil _ _) (List.cons_ne_nil _ _) hmore]

/-- The text with every occurrence of `old` replaced by `new`. -/
def replaceAll (old new cs : List Char) : List Char := join new (split old cs)

/-- The pieces, with `sep` between them, as one string. -/
def joinStrings (sep : String) (pieces : List String) : String :=
  String.ofList (join sep.toList (pieces.map String.toList))

/-- The library joins them in the same way. -/
theorem joinStrings_eq_intercalate (sep : String) (pieces : List String) :
    joinStrings sep pieces = sep.intercalate pieces := by
  have htext : join sep.toList (pieces.map String.toList) = (sep.intercalate pieces).toList := by
    induction pieces with
    | nil => rfl
    | cons piece pieces ih =>
      cases pieces with
      | nil => simp [join]
      | cons next pieces =>
        rw [List.map_cons, List.map_cons, join_cons_cons, ← List.map_cons, ih, String.intercalate_cons_cons]
        simp [String.append_assoc]
  rw [joinStrings, htext, String.ofList_toList]

end TraceDiagram.Text
