import Mathlib.Data.List.Forall2
import Mathlib.Data.List.Infix
import TraceDiagram.Proofs.ParamLists

/-! # What splitting comes to

Where texts are cut, told without the functions that cut them.

* **`CutsFirst`** a text is cut at the first occurrence of a separator; **`splitOnce?_eq_some_iff`**.
* **`SplitsAt`** a text is cut at one occurrence after the other, from the left; **`split_eq_iff_splitsAt`**.
* **`ParamSyntax.Lists`** what a list of parameters says; **`ParamSyntax.read_eq_iff_lists`** a list is read in
  this way, with and without a look whether it has a separator at all. -/

namespace TraceDiagram

namespace Text

variable {sep text before after : List Char} {pieces : List (List Char)}

/-! ## One cut -/

/-- A text is cut at the first occurrence of a separator. -/
structure CutsFirst (sep text before after : List Char) : Prop where
  /-- It is what stands in front of the separator, the separator and what stands behind it. -/
  whole : text = before ++ sep ++ after
  /-- The separator occurs nowhere earlier. -/
  first : ∀ front back, text = front ++ sep ++ back → before.length ≤ front.length

/-- There is one first occurrence. -/
theorem CutsFirst.unique {before' after' : List Char} (h : CutsFirst sep text before after)
    (h' : CutsFirst sep text before' after') : before = before' ∧ after = after' := by
  have hlength : before.length = before'.length := Nat.le_antisymm (h.first _ _ h'.whole) (h'.first _ _ h.whole)
  have heq : before ++ (sep ++ after) = before' ++ (sep ++ after') := by
    rw [← List.append_assoc, ← List.append_assoc, ← h.whole, ← h'.whole]
  obtain ⟨hbefore, hrest⟩ := List.append_inj heq hlength
  exact ⟨hbefore, List.append_cancel_left hrest⟩

/-- A text is cut where a separator occurs first. -/
theorem cutsFirst_of_splitOnce? (h : splitOnce? sep text = some (before, after)) :
    CutsFirst sep text before after where
  whole := splitOnce?_eq_some h
  first front back heq := by
    induction text generalizing before front with
    | nil =>
      have hlength := congrArg List.length (splitOnce?_eq_some h)
      simp only [List.length_nil, List.length_append] at hlength
      omega
    | cons c text ih =>
      rw [splitOnce?] at h
      split at h
      · obtain ⟨rfl, -⟩ := Prod.mk.inj (Option.some.inj h)
        exact Nat.zero_le _
      · next hsep =>
        obtain ⟨⟨start, rest⟩, hcut, hparts⟩ := Option.map_eq_some_iff.1 h
        obtain ⟨rfl, rfl⟩ := Prod.mk.inj hparts
        cases front with
        | nil => exact absurd (List.isPrefixOf_iff_prefix.2 ⟨back, heq.symm⟩) hsep
        | cons d front => exact Nat.succ_le_succ (ih hcut front (List.cons.inj heq).2)

/-- **One cut**: a text is cut at the first occurrence of a separator, whatever the separator is. -/
theorem splitOnce?_eq_some_iff : splitOnce? sep text = some (before, after) ↔ CutsFirst sep text before after := by
  refine ⟨cutsFirst_of_splitOnce?, fun h => ?_⟩
  have hoccurs : occursIn sep text = true := (occursIn_iff_isInfix sep text).2 ⟨before, after, h.whole.symm⟩
  obtain ⟨⟨front, back⟩, hcut⟩ := Option.isSome_iff_exists.1 hoccurs
  obtain ⟨rfl, rfl⟩ := (cutsFirst_of_splitOnce? hcut).unique h
  exact hcut

/-- A text is not cut if the separator does not occur. -/
theorem splitOnce?_eq_none_iff : splitOnce? sep text = none ↔ ¬sep <:+: text := by
  rw [← occursIn_iff_isInfix, occursIn, Option.not_isSome_iff_eq_none]

/-! ## All cuts -/

/-- The pieces of a text between the occurrences of a separator, which are looked for from the left; the next one
begins behind the last. An empty separator stands between all characters and at both ends. -/
inductive SplitsAt (sep : List Char) : List Char → List (List Char) → Prop where
  /-- There is no occurrence any more. -/
  | last {text : List Char} (h : ¬sep <:+: text) : SplitsAt sep text [text]
  /-- The text is cut at the first occurrence, and what is left of it behind that. -/
  | cut {text before after : List Char} {pieces : List (List Char)} (hsep : sep ≠ [])
      (h : CutsFirst sep text before after) (more : SplitsAt sep after pieces) :
      SplitsAt sep text (before :: pieces)
  /-- Each character is a piece of its own. -/
  | everywhere {text : List Char} (hsep : sep = []) : SplitsAt sep text ([] :: text.map ([·]) ++ [[]])

/-- The characters of an occurrence that has been seen are passed over. -/
theorem splitFrom_eq_drop (sep : List Char) (skip : Nat) (text : List Char) :
    splitFrom sep skip text = splitFrom sep 0 (text.drop skip) := by
  induction text generalizing skip with
  | nil => cases skip <;> rfl
  | cons c text ih =>
    cases skip with
    | zero => rfl
    | succ skip => rw [splitFrom, ih skip, List.drop_succ_cons]

/-- **Step lemma**: the first piece ends at the first occurrence, and the others are those of what stands behind
it. -/
theorem splitFrom_eq (hsep : sep ≠ []) (text : List Char) : splitFrom sep 0 text =
    match splitOnce? sep text with
    | none => [text]
    | some (before, after) => before :: splitFrom sep 0 after := by
  induction text with
  | nil =>
    have hempty : ¬sep.isEmpty = true := fun h => hsep (List.isEmpty_iff.1 h)
    rw [splitOnce?, if_neg hempty, splitFrom]
  | cons c text ih =>
    rw [splitFrom, splitOnce?]
    split
    · -- the rest of the occurrence is skipped
      obtain ⟨first, rest, rfl⟩ := List.exists_cons_of_ne_nil hsep
      rw [splitFrom_eq_drop]
      rfl
    · rw [ih]
      cases splitOnce? sep text <;> rfl

/-- Splitting finds the pieces. -/
theorem splitsAt_split (sep text : List Char) : SplitsAt sep text (split sep text) := by
  rw [split]
  split
  · next hempty => exact .everywhere (List.isEmpty_iff.1 hempty)
  · next hempty =>
    have hsep : sep ≠ [] := fun h => hempty (List.isEmpty_iff.2 h)
    rw [splitFrom_eq hsep]
    cases hcut : splitOnce? sep text with
    | none => exact .last (splitOnce?_eq_none_iff.1 hcut)
    | some parts =>
      obtain ⟨before, after⟩ := parts
      have hfirst := cutsFirst_of_splitOnce? hcut
      have hafter := splitsAt_split sep after
      rw [split, if_neg hempty] at hafter
      exact .cut hsep hfirst hafter
termination_by text.length
decreasing_by
  rw [hfirst.whole, List.length_append, List.length_append]
  have hpos := List.length_pos_iff.2 hsep
  omega

/-- There are no other ones. -/
theorem SplitsAt.eq_split (h : SplitsAt sep text pieces) : split sep text = pieces := by
  induction h with
  | last habsent =>
    have hsep : sep ≠ [] := fun h => habsent (h ▸ List.nil_infix)
    have hempty : ¬sep.isEmpty = true := fun h => hsep (List.isEmpty_iff.1 h)
    rw [split, if_neg hempty, splitFrom_eq hsep, splitOnce?_eq_none_iff.2 habsent]
  | cut hsep hfirst more ih =>
    have hempty : ¬sep.isEmpty = true := fun h => hsep (List.isEmpty_iff.1 h)
    rw [split, if_neg hempty] at ih
    rw [split, if_neg hempty, splitFrom_eq hsep, splitOnce?_eq_some_iff.2 hfirst]
    exact congrArg _ ih
  | everywhere hsep => rw [hsep, split, if_pos List.isEmpty_nil]

/-- **All cuts**: a text is split at one occurrence of the separator after the other. -/
theorem split_eq_iff_splitsAt : split sep text = pieces ↔ SplitsAt sep text pieces :=
  ⟨fun h => h ▸ splitsAt_split sep text, SplitsAt.eq_split⟩

end Text

open Text

/-! ## Lists of parameters -/

namespace ParamSyntax

variable {x : ParamSyntax}

/-- What a piece of a list says: it has a separator, in front of whose first occurrence the attribute stands, and
its value behind that. White space around them does not count. -/
def Says (x : ParamSyntax) (piece : List Char) (p : Param) : Prop :=
  ∃ before after, CutsFirst x.valueSeparator.toList piece before after ∧
    p = ⟨String.ofList (trimChars before), String.ofList (trimChars after)⟩

/-- What a list says: each of its pieces in which a separator occurs says one parameter, in order. -/
def Lists (x : ParamSyntax) (raw : String) (params : List Param) : Prop :=
  ∃ pieces, SplitsAt x.pairSeparator.toList raw.toList pieces ∧
    List.Forall₂ x.Says (pieces.filter fun piece => x.valueSeparator.toList <:+: piece) params

/-- A piece is read as what it says. -/
theorem readOne_eq_some_iff {piece : List Char} {p : Param} : x.readOne piece = some p ↔ x.Says piece p := by
  rw [readOne, Option.map_eq_some_iff]
  constructor
  · rintro ⟨⟨before, after⟩, hcut, rfl⟩
    exact ⟨before, after, splitOnce?_eq_some_iff.1 hcut, rfl⟩
  · rintro ⟨before, after, hfirst, rfl⟩
    exact ⟨(before, after), splitOnce?_eq_some_iff.2 hfirst, rfl⟩

/-- **Run lemma**: pieces are read as what those with a separator say. -/
theorem filterMap_readOne_eq_iff {pieces : List (List Char)} {params : List Param} :
    pieces.filterMap x.readOne = params ↔
      List.Forall₂ x.Says (pieces.filter fun piece => x.valueSeparator.toList <:+: piece) params := by
  induction pieces generalizing params with
  | nil => rw [List.filterMap_nil, List.filter_nil, List.forall₂_nil_left_iff, eq_comm]
  | cons piece pieces ih =>
    cases hread : x.readOne piece with
    | none =>
      have habsent : ¬x.valueSeparator.toList <:+: piece := by
        rw [← splitOnce?_eq_none_iff]
        simpa [readOne] using hread
      rw [List.filterMap_cons_none hread, List.filter_cons_of_neg (by simpa using habsent), ih]
    | some p =>
      have hsays := readOne_eq_some_iff.1 hread
      have hoccurs : x.valueSeparator.toList <:+: piece := by
        obtain ⟨before, after, hfirst, -⟩ := hsays
        exact ⟨before, after, hfirst.whole.symm⟩
      rw [List.filterMap_cons_some hread, List.filter_cons_of_pos (by simpa using hoccurs)]
      constructor
      · rintro rfl
        exact .cons hsays (ih.1 rfl)
      · rintro (_ | ⟨hother, hmore⟩)
        -- a piece says one parameter only
        obtain rfl := Option.some.inj (hread.symm.trans (readOne_eq_some_iff.2 hother))
        rw [ih.2 hmore]

/-- **A list is read as what it says**, for any separators of which the one between an attribute and its value is
not empty: it is split at the one between parameters, whether or not it has the other; the pieces that have the
other are kept in order; and each of them is cut at the first and trimmed. -/
theorem read_eq_iff_lists (hsep : x.valueSeparator ≠ "") (raw : String) (params : List Param) :
    x.read raw = params ↔ x.Lists raw params := by
  -- without a separator in the whole there is none in a piece, so that the look for one makes no difference
  rw [read_eq_filterMap hsep, filterMap_readOne_eq_iff]
  constructor
  · intro h
    exact ⟨_, split_eq_iff_splitsAt.1 rfl, h⟩
  · rintro ⟨pieces, hpieces, h⟩
    rwa [split_eq_iff_splitsAt.2 hpieces]

/-- Separators that overlap: the second begins with the first. -/
def overlapping : ParamSyntax where
  valueSeparator := "="
  pairSeparator := "=="

/-- Three signs in a row are a separator between parameters and one in front of a value. -/
theorem read_eq_iff_lists_overlapping : overlapping.valueSeparator ≠ "" ∧
    overlapping.Lists "a = 1===2==b" [⟨"a", "1"⟩, ⟨"", "2"⟩] := by
  have hsep : overlapping.valueSeparator ≠ "" := by decide
  exact ⟨hsep, (read_eq_iff_lists hsep _ _).1 (by decide +kernel)⟩

end ParamSyntax

end TraceDiagram
