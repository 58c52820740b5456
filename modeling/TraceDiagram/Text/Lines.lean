import TraceDiagram.Text.Blank

/-! # Lines

* **`lines`** cuts a text after each newline. One carriage return before the newline belongs to the
  line's end, and nothing after the last newline is no line.
* **`lines_append`** and **`lines_append_return`** what stands in front of a line's end is the first line;
  **`lines_of_newline_not_mem`** a text without a newline is one line.
* **`newline_not_mem_of_mem_lines`** no line has a newline in it.
-/

namespace TraceDiagram.Text

/-- The lines of a text, without their ends. -/
def lines : List Char → List (List Char)
  | [] => []
  | '\r' :: '\n' :: rest => [] :: lines rest
  | c :: rest => if c = '\n' then [] :: lines rest else consFirst c (lines rest)

/-- A character that ends no line belongs to the first one. -/
theorem lines_cons {c : Char} (hnewline : c ≠ '\n') {rest : List Char}
    (hreturn : c = '\r' → rest.head? ≠ some '\n') : lines (c :: rest) = consFirst c (lines rest) := by
  rw [lines, if_neg hnewline]
  rintro tail rfl rfl
  exact hreturn rfl rfl

/-- A newline ends the first line, which has no newline in it and no carriage return at its end. -/
theorem lines_append {line : List Char} (hnewline : '\n' ∉ line) (hreturn : line.getLast? ≠ some '\r')
    (rest : List Char) : lines (line ++ '\n' :: rest) = line :: lines rest := by
  induction line with
  | nil => simp [lines]
  | cons c line ih =>
    have hc : c ≠ '\n' := fun h => hnewline (h ▸ List.mem_cons_self)
    have hline : '\n' ∉ line := fun h => hnewline (List.mem_cons_of_mem c h)
    cases line with
    | nil =>
      have hlast : c ≠ '\r' := fun h => hreturn (by rw [h]; rfl)
      rw [List.singleton_append, lines_cons hc fun h => absurd h hlast]
      simp [lines, consFirst]
    | cons d line =>
      have hd : d ≠ '\n' := fun h => hline (h ▸ List.mem_cons_self)
      have hhead : (d :: line ++ '\n' :: rest).head? ≠ some '\n' := by simpa using hd
      rw [List.cons_append, lines_cons hc fun _ => hhead, ih hline (by simpa using hreturn), consFirst]

/-- A carriage return and a newline end the first line together. -/
theorem lines_append_return {line : List Char} (hnewline : '\n' ∉ line) (rest : List Char) :
    lines (line ++ '\r' :: '\n' :: rest) = line :: lines rest := by
  induction line with
  | nil => rw [List.nil_append, lines]
  | cons c line ih =>
    have hc : c ≠ '\n' := fun h => hnewline (h ▸ List.mem_cons_self)
    have hline : '\n' ∉ line := fun h => hnewline (List.mem_cons_of_mem c h)
    have hhead : (line ++ '\r' :: '\n' :: rest).head? ≠ some '\n' := by
      cases line with
      | nil => simp
      | cons d line =>
        have hd : d ≠ '\n' := fun h => hline (h ▸ List.mem_cons_self)
        simpa using hd
    rw [List.cons_append, lines_cons hc fun _ => hhead, ih hline, consFirst]

/-- A text without a newline is one line, unless it is empty. -/
theorem lines_of_newline_not_mem {line : List Char} (hnewline : '\n' ∉ line) (hne : line ≠ []) :
    lines line = [line] := by
  induction line with
  | nil => exact absurd rfl hne
  | cons c line ih =>
    have hc : c ≠ '\n' := fun h => hnewline (h ▸ List.mem_cons_self)
    have hline : '\n' ∉ line := fun h => hnewline (List.mem_cons_of_mem c h)
    have hhead : line.head? ≠ some '\n' := fun h => hline (List.mem_of_mem_head? h)
    rw [lines_cons hc fun _ => hhead]
    cases line with
    | nil => rfl
    | cons d line => rw [ih hline (List.cons_ne_nil d line), consFirst]

/-- No line has a newline in it. -/
theorem newline_not_mem_of_mem_lines {cs line : List Char} (h : line ∈ lines cs) : '\n' ∉ line := by
  induction cs using lines.induct generalizing line with
  | case1 => cases h
  | case2 rest ih =>
    rw [lines] at h
    rcases List.mem_cons.1 h with rfl | h
    · exact List.not_mem_nil
    · exact ih h
  | case3 rest hreturn ih =>
    rw [lines, if_pos rfl] at h
    · rcases List.mem_cons.1 h with rfl | h
      · exact List.not_mem_nil
      · exact ih h
    · exact hreturn
  | case4 c rest hreturn hc ih =>
    rw [lines, if_neg hc] at h
    · cases hmore : lines rest with
      | nil =>
        rw [hmore] at h
        rw [List.mem_singleton.1 h, List.mem_singleton]
        exact Ne.symm hc
      | cons first more =>
        rw [hmore] at h ih
        rcases List.mem_cons.1 h with rfl | h
        · rw [List.mem_cons, not_or]
          exact ⟨Ne.symm hc, ih List.mem_cons_self⟩
        · exact ih (List.mem_cons_of_mem _ h)
    · exact hreturn

end TraceDiagram.Text
