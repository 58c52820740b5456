import TraceDiagram.Unicode.CodeRange

/-! # White space

* **`isBlank`** whether a character is white space.
* **`trimChars`** and **`trim`** take white space off both ends.
* **`words`** the maximal stretches without white space.
-/

namespace TraceDiagram.Text

open Unicode

/-- The code points of white space. -/
def blankRanges : List CodeRange := [
  (0x9, 0xD), (0x20, 0x20), (0x85, 0x85), (0xA0, 0xA0), (0x1680, 0x1680), (0x2000, 0x200A),
  (0x2028, 0x2029), (0x202F, 0x202F), (0x205F, 0x205F), (0x3000, 0x3000)]

/-- Whether `c` is white space. -/
def isBlank (c : Char) : Bool := inRanges blankRanges c

/-- The text without white space at its start. -/
def trimStartChars (cs : List Char) : List Char := cs.dropWhile isBlank

/-- The text without white space at its end. -/
def trimEndChars (cs : List Char) : List Char := (cs.reverse.dropWhile isBlank).reverse

/-- The text without white space at its ends. -/
def trimChars (cs : List Char) : List Char := trimEndChars (trimStartChars cs)

/-- The text without white space at its ends. -/
def trim (s : String) : String := String.ofList (trimChars s.toList)

/-- Trimming leaves a stretch of the text. -/
theorem trimChars_isInfix (cs : List Char) : trimChars cs <:+: cs := by
  have hstart : trimStartChars cs <:+ cs := List.dropWhile_suffix _
  have hend : trimEndChars (trimStartChars cs) <+: trimStartChars cs := by
    rw [← List.reverse_suffix, trimEndChars, List.reverse_reverse]
    exact List.dropWhile_suffix _
  exact hend.isInfix.trans hstart.isInfix

/-- White space in front does not count. -/
theorem trimChars_cons {c : Char} (h : isBlank c = true) (cs : List Char) :
    trimChars (c :: cs) = trimChars cs := by
  rw [trimChars, trimStartChars, List.dropWhile_cons_of_pos h, trimChars, trimStartChars]

/-- White space at either end does not count. -/
theorem trimChars_surrounded {before after : List Char} (hbefore : ∀ c ∈ before, isBlank c = true)
    (hafter : ∀ c ∈ after, isBlank c = true) (cs : List Char) :
    trimChars (before ++ (cs ++ after)) = trimChars cs := by
  have hstart : trimStartChars (before ++ (cs ++ after)) = trimStartChars (cs ++ after) :=
    List.dropWhile_append_of_pos hbefore
  rw [trimChars, hstart, trimStartChars, List.dropWhile_append]
  split
  · -- the text is white space throughout, so nothing is left of it
    next hblank =>
    have hall : (after ++ []).dropWhile isBlank = [] := List.dropWhile_append_of_pos hafter
    rw [List.append_nil] at hall
    rw [trimChars, trimStartChars, List.isEmpty_iff.1 hblank, hall]
  · have hback : ∀ c ∈ after.reverse, isBlank c = true := fun c hc => hafter c (List.mem_reverse.1 hc)
    rw [trimEndChars, List.reverse_append, List.dropWhile_append_of_pos hback]
    rfl

/-- A text that has no white space at its ends does not begin with white space. -/
theorem isBlank_head?_of_trimmed {cs : List Char} (h : trimChars cs = cs) :
    ∀ c ∈ cs.head?, isBlank c = false := by
  intro c hc
  obtain ⟨rest, rfl⟩ := List.head?_eq_some_iff.1 hc
  cases hb : isBlank c with
  | false => rfl
  | true =>
    -- trimming would make the text shorter
    have hlength := congrArg List.length h
    rw [trimChars_cons hb] at hlength
    have hend := (List.dropWhile_sublist isBlank (l := (trimStartChars rest).reverse)).length_le
    have hstart := (List.dropWhile_sublist isBlank (l := rest)).length_le
    simp only [trimChars, trimEndChars, trimStartChars, List.length_reverse, List.length_cons] at *
    omega

/-- White space is trimmed away. -/
theorem trimChars_of_blank {cs : List Char} (h : ∀ c ∈ cs, isBlank c = true) : trimChars cs = [] := by
  have hall := trimChars_surrounded h (List.forall_mem_nil _) []
  rwa [List.append_nil, List.append_nil] at hall

/-- Trimming leaves nothing, or something that is not white space throughout. -/
theorem trimChars_eq_nil_of_blank {cs : List Char} (h : ∀ c ∈ trimChars cs, isBlank c = true) :
    trimChars cs = [] := by
  rw [trimChars, trimEndChars, List.reverse_eq_nil_iff]
  cases hkept : (trimStartChars cs).reverse.dropWhile isBlank with
  | nil => rfl
  | cons c rest =>
    -- the first character from the end that is kept would be white space
    have hend := List.head?_dropWhile_not isBlank (trimStartChars cs).reverse
    have hblank : isBlank c = true := h c (by simp [trimChars, trimEndChars, hkept])
    rw [hkept] at hend
    simp [hblank] at hend

/-- Puts a character in front of the first of some pieces. -/
def consFirst (c : Char) : List (List Char) → List (List Char)
  | [] => [[c]]
  | piece :: rest => (c :: piece) :: rest

/-- The pieces between single white-space characters, empty ones included. -/
def blankFields : List Char → List (List Char)
  | [] => [[]]
  | c :: cs => if isBlank c then [] :: blankFields cs else consFirst c (blankFields cs)

/-- The maximal stretches without white space, in order. -/
def words (cs : List Char) : List (List Char) := (blankFields cs).filter fun w => !w.isEmpty

end TraceDiagram.Text
