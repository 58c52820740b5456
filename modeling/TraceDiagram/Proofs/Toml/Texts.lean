import TraceDiagram.Proofs.Scanning
import TraceDiagram.Toml.Writer

/-! # Texts in configuration files

Every text is read back from the form in which it is written, whatever characters it is made of.

* **`escapedChar_cases`** the forms of a character, with the escapes read as what they stand for.
* **`QuoteStyle.Fits`** the texts that quotes of a kind can hold; **`fits_ofText`** the kind that is chosen for
  a text can hold it.
* **`quotedText_writtenText`** and **`key_writtenKey`** read texts and keys back. -/

namespace TraceDiagram.Toml

open TraceDiagram.Text TraceDiagram.Text.Scan

/-! ## Escapes -/

/-- The letter of an escape is read as the character it stands for. -/
theorem escape_letter {p : Char × Char} (hp : p ∈ escapeLetters) (rest : List Char) :
    escape ('\\' :: p.1 :: rest) = some (p.2, rest) := by
  have hlookup : ∀ p ∈ escapeLetters, escapeLetters.lookup p.1 = some p.2 := by decide
  have hletter : escapeLetter (p.1 :: rest) = some (p.2, rest) := by
    rw [escapeLetter, hlookup p hp, Option.map_some]
  rw [escape, seqRight_of_some (char_of_pos rfl), firstOf_of_some hletter]

/-- The four digits of a small number are hexadecimal, and have its value. -/
theorem digitsValue?_fourHexDigits : ∀ n < 128,
    (fourHexDigits n).all isHexDigit = true ∧ digitsValue? 16 (fourHexDigits n) = some n := by decide

/-- The code point of a small character is read from its four digits. -/
theorem codePoint_fourHexDigits {c : Char} (hc : c.toNat < 128) (rest : List Char) :
    codePoint 4 (fourHexDigits c.toNat ++ rest) = some (c, rest) := by
  obtain ⟨hdigits, hvalue⟩ := digitsValue?_fourHexDigits c.toNat hc
  have hcount : count (char isHexDigit) 4 (fourHexDigits c.toNat ++ rest) =
      some (fourHexDigits c.toNat, rest) := count_char (List.all_eq_true.1 hdigits) rest
  have hvalid : c.toNat.isValidChar := c.valid
  rw [codePoint, bind_of_some hcount, hvalue, Option.getD_some, if_pos hvalid, pure_eq, Char.ofNat_toNat]

/-- The digits behind a letter are read as the code point of a character. -/
theorem escape_fourHexDigits {c : Char} (hc : c.toNat < 128) (rest : List Char) :
    escape ('\\' :: 'u' :: (fourHexDigits c.toNat ++ rest)) = some (c, rest) := by
  have hletter : escapeLetter ('u' :: (fourHexDigits c.toNat ++ rest)) = none := rfl
  have hmark : exactly "u" ('u' :: (fourHexDigits c.toNat ++ rest)) =
      some ((), fourHexDigits c.toNat ++ rest) := exactly_append "u" _
  rw [escape, seqRight_of_some (char_of_pos rfl), firstOf_of_none hletter]
  exact firstOf_of_some ((seqRight_of_some hmark _).trans (codePoint_fourHexDigits hc rest))

/-- A character that may not stand as it is has a small code point. -/
theorem toNat_lt_of_not_isPlain {c : Char} (h : isPlain c = false) : c.toNat < 128 := by
  simp only [isPlain, Bool.or_eq_false_iff, Bool.and_eq_false_iff, decide_eq_false_iff_not] at h
  omega

/-- **The forms of a character between double quotes**: a line end of a text on several lines and a plain
character stand as they are, and every other one is an escape. -/
theorem escapedChar_cases (long : Bool) (c : Char) :
    (long = true ∧ c = '\n' ∧ escapedChar long c = ['\n']) ∨
    (isPlain c = true ∧ c ≠ '\\' ∧ escapedChar long c = [c]) ∨
    ∃ d code, escapedChar long c = '\\' :: d :: code ∧ d ∉ [' ', '\t', '\n', '\r'] ∧
      ∀ rest, escape ('\\' :: d :: (code ++ rest)) = some (c, rest) := by
  unfold escapedChar
  split
  · next h =>
    simp only [Bool.and_eq_true, decide_eq_true_eq] at h
    exact .inl ⟨h.1, h.2, by rw [h.2]⟩
  · split
    · next p hp =>
      have hmem := List.mem_of_find?_eq_some hp
      obtain rfl : p.2 = c := by simpa using List.find?_some hp
      have hletters : ∀ p ∈ escapeLetters, p.1 ∉ [' ', '\t', '\n', '\r'] := by decide
      exact .inr (.inr ⟨p.1, [], rfl, hletters p hmem, escape_letter hmem⟩)
    · next hnone =>
      split
      · next hplain =>
        have hne : c ≠ '\\' := by
          rintro rfl
          exact List.find?_eq_none.1 hnone ('\\', '\\') (by decide) rfl
        exact .inr (.inl ⟨hplain, hne, rfl⟩)
      · next hplain =>
        have hsmall := toNat_lt_of_not_isPlain (Bool.eq_false_iff.2 hplain)
        exact .inr (.inr ⟨'u', fourHexDigits c.toNat, rfl, by decide, escape_fourHexDigits hsmall⟩)

/-! ## Texts on one line -/

section OneLine

variable (cs rest : List Char)

/-- A character between double quotes is read from its form. -/
theorem basicChar_escapedChar {c : Char} (hc : c ≠ '"') :
    basicChar (escapedChar false c ++ rest) = some (c, rest) := by
  obtain ⟨h, -⟩ | ⟨hplain, hne, hform⟩ | ⟨d, code, hform, -, hescape⟩ := escapedChar_cases false c
  · cases h
  · rw [hform]
    exact orElse_of_some (char_of_pos (by simp [hplain, hc, hne]))
  · rw [hform]
    exact (orElse_of_none (char_of_neg (by decide)) _).trans (hescape rest)

theorem escapedChar_ne_nil (long : Bool) (c : Char) : escapedChar long c ≠ [] := by
  obtain ⟨-, -, h⟩ | ⟨-, -, h⟩ | ⟨d, code, h, -⟩ := escapedChar_cases long c <;> simp [h]

/-- The characters between double quotes are read one by one. -/
theorem repeats_escapedFrom (run : Nat) :
    Repeats basicChar cs (escapedFrom false run cs ++ '"' :: rest) ('"' :: rest) := by
  induction cs generalizing run with
  | nil => exact .stop (orElse_of_none (char_of_neg (by decide)) _)
  | cons c cs ih =>
    rw [escapedFrom]
    by_cases hc : c = '"'
    · subst hc
      -- a double quote always gets a backslash
      have hescape : basicChar (['\\', '"'] ++ (escapedFrom false 0 cs ++ '"' :: rest)) = some ('"', _) :=
        (orElse_of_none (char_of_neg (by decide)) _).trans (escape_letter (p := ('"', '"')) (by decide) _)
      have hrun : (if false = true then 2 else 0) ≤ run := Nat.zero_le run
      rw [if_pos rfl, if_pos hrun]
      change Repeats _ _ (['\\', '"'] ++ (escapedFrom false 0 cs ++ '"' :: rest)) _
      exact .next (List.cons_ne_nil _ _) hescape (ih 0)
    · rw [if_neg hc, List.append_assoc]
      exact .next (escapedChar_ne_nil false c) (basicChar_escapedChar _ hc) (ih 0)

/-- A text between double quotes is read back. -/
theorem basicText_apply : basicText (QuoteStyle.basic.apply cs ++ rest) = some (String.ofList cs, rest) := by
  have hbody : QuoteStyle.basic.apply cs ++ rest = '"' :: (escapedFrom false 0 cs ++ '"' :: rest) := by
    simp [QuoteStyle.apply]
  rw [hbody, basicText, bind_of_some (char_of_pos (by decide)),
    bind_of_some (many_of_repeats (repeats_escapedFrom cs rest 0)), bind_of_some (char_of_pos (by decide)),
    pure_eq]

/-- A text between single quotes is read back, if it can stand there as it is. -/
theorem literalText_apply (h : ∀ c ∈ cs, isPlain c = true ∧ c ≠ '\'') :
    literalText (QuoteStyle.literal.apply cs ++ rest) = some (String.ofList cs, rest) := by
  have hbody : QuoteStyle.literal.apply cs ++ rest = '\'' :: (cs ++ '\'' :: rest) := by
    simp [QuoteStyle.apply]
  have hrun : charsWhile (fun c => isPlain c && c ≠ '\'') (cs ++ '\'' :: rest) = some (cs, '\'' :: rest) :=
    charsWhile_append (fun c hc => by simpa using h c hc) (by simp)
  rw [hbody, literalText, bind_of_some (char_of_pos (by decide)), bind_of_some hrun,
    bind_of_some (char_of_pos (by decide)), pure_eq]

end OneLine

/-! ## Texts on several lines -/

/-- Reads a piece of a text between three quotes, a line end or a quote that belongs to the text. -/
def longStep (quote : Char) (piece : Scan (List Char)) : Scan (List Char) :=
  firstOf [piece, newline *> pure ['\n'], (fun c => [c]) <$> innerQuote quote]

theorem newline_cons (rest : List Char) : newline ('\n' :: rest) = some ((), rest) :=
  orElse_of_some (exactly_append "\n" rest)

/-- Where a line does not end, no line end is read. -/
theorem newline_eq_none {cs : List Char} (h : StartsWithout ['\n', '\r'] cs) : newline cs = none :=
  (orElse_of_none (exactly_of_startsWithout (c := '\n') rfl (h.mono (by simp))) _).trans
    (exactly_of_startsWithout (c := '\r') rfl (h.mono (by simp)))

/-- How many quotes a text begins with. -/
def leadingQuotes (quote : Char) (cs : List Char) : Nat := (cs.takeWhile (· = quote)).length

section LongTexts

variable {quote : Char} {piece : Scan (List Char)} {cs body rest : List Char}

theorem takeWhile_eq_nil (h : StartsWithout [quote] rest) : rest.takeWhile (· = quote) = [] := by
  cases rest with
  | nil => rfl
  | cons c rest =>
    have hc : c ≠ quote := by simpa using h c rfl
    exact List.takeWhile_cons_of_neg (by simpa using hc)

/-- Three quotes end a text. -/
theorem innerQuote_end (hrest : StartsWithout [quote] rest) :
    innerQuote quote (quote :: quote :: quote :: rest) = none := by
  simp [innerQuote, takeWhile_eq_nil hrest]

/-- Up to two quotes in a row belong to a text, also in front of the three that end it. -/
theorem innerQuote_body (hbody : leadingQuotes quote (quote :: body) ≤ 2)
    (hrest : StartsWithout [quote] rest) :
    innerQuote quote (quote :: (body ++ quote :: quote :: quote :: rest)) =
      some (quote, body ++ quote :: quote :: quote :: rest) := by
  rw [innerQuote, if_neg]
  · exact char_of_pos (by simp)
  · simp only [leadingQuotes, List.takeWhile_cons, decide_true, if_true, List.length_cons] at hbody ⊢
    rw [List.takeWhile_append]
    split
    · -- the quotes of the body reach up to the three that end the text
      simp [takeWhile_eq_nil hrest]
      omega
    · omega

/-- A quote is read as one that belongs to the text, or ends it. -/
theorem longStep_quote (hpiece : piece (quote :: cs) = none) (hquote : quote ∉ ['\n', '\r']) :
    longStep quote piece (quote :: cs) = ((fun c => [c]) <$> innerQuote quote) (quote :: cs) := by
  have hnewline : newline (quote :: cs) = none := by
    refine newline_eq_none fun c hc => ?_
    obtain rfl : quote = c := by simpa using hc
    exact hquote
  rw [longStep, firstOf_of_none hpiece, firstOf_of_none (seqRight_of_none hnewline _)]
  exact firstOf_singleton _ _

/-- A line end is read as such where no piece begins with it. -/
theorem longStep_newline (hpiece : piece ('\n' :: cs) = none) :
    longStep quote piece ('\n' :: cs) = some (['\n'], cs) := by
  rw [longStep, firstOf_of_none hpiece]
  exact firstOf_of_some (seqRight_of_some (newline_cons cs) _)

/-- A text between three quotes is read if its characters are read one by one. A line end in front of it is
passed over. -/
theorem longText_of_repeats
    (hsteps : Repeats (longStep quote piece) (cs.map fun c => [c]) (body ++ quote :: quote :: quote :: rest)
      (quote :: quote :: quote :: rest))
    (hstart : '\n' ∉ cs → StartsWithout ['\n', '\r'] (body ++ quote :: quote :: quote :: rest)) :
    longText quote piece ([quote, quote, quote] ++ lineStart cs ++ body ++ [quote, quote, quote] ++ rest) =
      some (String.ofList cs, rest) := by
  have hquotes : ∀ rest, count (char (· = quote)) 3 ([quote, quote, quote] ++ rest) =
      some ([quote, quote, quote], rest) :=
    count_char (List.forall_mem_replicate.2 (.inr (decide_eq_true rfl)) : ∀ c ∈ List.replicate 3 quote, _)
  have hline : ∃ found, optional newline (lineStart cs ++ (body ++ quote :: quote :: quote :: rest)) =
      some (found, body ++ quote :: quote :: quote :: rest) := by
    by_cases hbreak : '\n' ∈ cs
    · rw [lineStart, if_pos (by simpa using hbreak)]
      exact ⟨_, optional_of_some (newline_cons _)⟩
    · rw [lineStart, if_neg (by simpa using hbreak)]
      exact ⟨_, optional_of_none (newline_eq_none (hstart hbreak))⟩
  obtain ⟨found, hline⟩ := hline
  have hflat : (cs.map fun c => [c]).flatten = cs := by
    rw [← List.flatMap_def]
    exact List.flatMap_singleton' cs
  rw [longText, List.append_assoc, List.append_assoc, List.append_assoc, bind_of_some (hquotes _)]
  refine (bind_of_some hline _).trans ((bind_of_some (many_of_repeats hsteps) _).trans ?_)
  rw [hflat]
  exact bind_of_some (hquotes rest) _

end LongTexts

section LongBasic

variable {c : Char} {cs rest : List Char}

/-- The form of a character other than the double quote does not begin with one. -/
theorem exists_escapedChar_eq_cons (long : Bool) (hc : c ≠ '"') :
    ∃ d tail, escapedChar long c = d :: tail ∧ d ≠ '"' ∧ (c ≠ '\n' → d ∉ ['\n', '\r']) := by
  obtain ⟨-, rfl, h⟩ | ⟨hplain, -, h⟩ | ⟨d, code, h, -⟩ := escapedChar_cases long c
  · exact ⟨_, _, h, hc, fun h => absurd rfl h⟩
  · refine ⟨_, _, h, hc, fun _ hmem => ?_⟩
    simp only [List.mem_cons, List.not_mem_nil, or_false] at hmem
    rcases hmem with rfl | rfl <;> revert hplain <;> decide
  · exact ⟨_, _, h, by decide, fun _ => by decide⟩

/-- Nothing but line ends and quotes are left for the other alternatives. -/
theorem longBasicPiece_eq_none (hc : c = '\n' ∨ c = '"') : longBasicPiece (c :: cs) = none := by
  have hplain : (isPlain c && c ≠ '"' && c ≠ '\\') = false := by rcases hc with rfl | rfl <;> decide
  have hmark : decide (c = '\\') = false := by rcases hc with rfl | rfl <;> decide
  have hjoin : lineJoin (c :: cs) = none := bind_of_none (char_of_neg hmark) _
  rw [longBasicPiece, firstOf_of_none (map_of_none (char_of_neg hplain) _),
    firstOf_of_none (seqRight_of_none hjoin _), firstOf_singleton]
  exact map_of_none (seqRight_of_none (char_of_neg hmark) _) _

/-- A backslash begins an escape, unless the line ends behind it. -/
theorem longStep_escape {d : Char} (hd : d ∉ [' ', '\t', '\n', '\r'])
    (hescape : escape ('\\' :: d :: cs) = some (c, rest)) :
    longStep '"' longBasicPiece ('\\' :: d :: cs) = some ([c], rest) := by
  simp only [List.mem_cons, List.not_mem_nil, or_false, not_or] at hd
  have hgap : gap (d :: cs) = some ((), d :: cs) := by
    rw [gap, List.dropWhile_cons_of_neg (by simp [isGap, hd])]
  have hnewline : newline (d :: cs) = none := by
    refine newline_eq_none fun e he => ?_
    obtain rfl : d = e := by simpa using he
    simp [hd]
  have hjoin : lineJoin ('\\' :: d :: cs) = none := by
    rw [lineJoin, bind_of_some (char_of_pos (by decide)), bind_of_some hgap]
    exact bind_of_none hnewline _
  have hplain : (isPlain '\\' && '\\' ≠ '"' && '\\' ≠ '\\') = false := by decide
  refine firstOf_of_some ?_
  rw [longBasicPiece, firstOf_of_none (map_of_none (char_of_neg hplain) _),
    firstOf_of_none (seqRight_of_none hjoin _)]
  exact firstOf_of_some (map_of_some hescape _)

/-- A character between three double quotes is read from its form. -/
theorem longStep_escapedChar (hc : c ≠ '"') :
    longStep '"' longBasicPiece (escapedChar true c ++ rest) = some ([c], rest) := by
  obtain ⟨-, rfl, hform⟩ | ⟨hplain, hne, hform⟩ | ⟨d, code, hform, hd, hescape⟩ := escapedChar_cases true c
  · rw [hform]
    exact longStep_newline (longBasicPiece_eq_none (.inl rfl))
  · rw [hform]
    exact firstOf_of_some (firstOf_of_some (map_of_some (char_of_pos (by simp [hplain, hc, hne])) _))
  · rw [hform]
    exact longStep_escape hd (hescape rest)

/-- At most two double quotes stand in a row without a backslash. -/
theorem leadingQuotes_escapedFrom (cs : List Char) (run : Nat) :
    leadingQuotes '"' (escapedFrom true run cs) ≤ 2 - run := by
  induction cs generalizing run with
  | nil => exact Nat.zero_le _
  | cons c cs ih =>
    rw [escapedFrom]
    by_cases hc : c = '"'
    · by_cases hrun : 2 ≤ run
      · rw [if_pos hc, if_pos (by simpa using hrun)]
        exact Nat.zero_le _
      · rw [if_pos hc, if_neg (by simpa using hrun)]
        have hmore := ih (run + 1)
        simp only [leadingQuotes, List.takeWhile_cons, decide_true, if_true, List.length_cons] at hmore ⊢
        omega
    · obtain ⟨d, tail, hform, hd, -⟩ := exists_escapedChar_eq_cons true hc
      rw [if_neg hc, hform]
      simp [leadingQuotes, hd]

/-- The characters between three double quotes are read one by one. -/
theorem repeats_escapedFrom_long (hrest : StartsWithout ['"'] rest) (cs : List Char) (run : Nat) :
    Repeats (longStep '"' longBasicPiece) (cs.map fun c => [c])
      (escapedFrom true run cs ++ '"' :: '"' :: '"' :: rest) ('"' :: '"' :: '"' :: rest) := by
  induction cs generalizing run with
  | nil =>
    refine .stop ?_
    rw [escapedFrom, List.nil_append, longStep_quote (longBasicPiece_eq_none (.inr rfl)) (by decide)]
    exact map_of_none (innerQuote_end hrest) _
  | cons c cs ih =>
    rw [escapedFrom, List.map_cons]
    by_cases hc : c = '"'
    · subst hc
      by_cases hrun : 2 ≤ run
      · rw [if_pos rfl, if_pos (by simpa using hrun)]
        change Repeats _ _ (['\\', '"'] ++ (escapedFrom true 0 cs ++ '"' :: '"' :: '"' :: rest)) _
        exact .next (List.cons_ne_nil _ _)
          (longStep_escape (by decide) (escape_letter (p := ('"', '"')) (by decide) _)) (ih 0)
      · have hquotes : leadingQuotes '"' (escapedFrom true run ('"' :: cs)) ≤ 2 :=
          Nat.le_trans (leadingQuotes_escapedFrom _ run) (Nat.sub_le 2 run)
        rw [escapedFrom, if_pos rfl, if_neg (by simpa using hrun)] at hquotes
        rw [if_pos rfl, if_neg (by simpa using hrun)]
        change Repeats _ _ (['"'] ++ (escapedFrom true (run + 1) cs ++ '"' :: '"' :: '"' :: rest)) _
        refine .next (List.cons_ne_nil _ _) ?_ (ih (run + 1))
        exact (longStep_quote (longBasicPiece_eq_none (.inr rfl)) (by decide)).trans
          (map_of_some (innerQuote_body hquotes hrest) _)
    · rw [if_neg hc, List.append_assoc]
      exact .next (escapedChar_ne_nil true c) (longStep_escapedChar hc) (ih 0)

/-- A text between three double quotes is read back. -/
theorem longText_basic (hrest : StartsWithout ['"'] rest) (cs : List Char) :
    longText '"' longBasicPiece (QuoteStyle.longBasic.apply cs ++ rest) = some (String.ofList cs, rest) := by
  refine longText_of_repeats (repeats_escapedFrom_long hrest cs 0) fun hbreak => ?_
  cases cs with
  | nil => simp [StartsWithout, escapedFrom]
  | cons c cs =>
    rw [List.mem_cons, not_or] at hbreak
    rw [escapedFrom]
    by_cases hc : c = '"'
    · simp [hc, StartsWithout]
    · obtain ⟨d, tail, hform, -, hd⟩ := exists_escapedChar_eq_cons true hc
      rw [if_neg hc, hform]
      intro e he
      obtain rfl : d = e := by simpa using he
      exact hd (Ne.symm hbreak.1)

end LongBasic

section LongLiteral

variable {cs rest : List Char}

/-- A text without three single quotes in a row begins with at most two. -/
theorem leadingQuotes_le (h : ¬['\'', '\'', '\''] <:+: cs) : leadingQuotes '\'' cs ≤ 2 := by
  refine Nat.le_of_not_lt fun hlong => h ?_
  refine List.IsInfix.trans ?_ (List.takeWhile_prefix (· = '\'')).isInfix
  have hall : cs.takeWhile (· = '\'') = List.replicate (leadingQuotes '\'' cs) '\'' := by
    refine List.eq_replicate_iff.2 ⟨rfl, fun c hc => ?_⟩
    simpa using List.all_eq_true.1 List.all_takeWhile c hc
  rw [hall, show leadingQuotes '\'' cs = 3 + (leadingQuotes '\'' cs - 3) by omega,
    ← List.replicate_append_replicate]
  exact (List.prefix_append _ _).isInfix

/-- The characters between three single quotes are read one by one, if they can stand there as they are. -/
theorem repeats_literal (hrest : StartsWithout ['\''] rest) (hplain : ∀ c ∈ cs, isPlain c = true ∨ c = '\n')
    (hquotes : ¬['\'', '\'', '\''] <:+: cs) :
    Repeats (longStep '\'' longLiteralPiece) (cs.map fun c => [c]) (cs ++ '\'' :: '\'' :: '\'' :: rest)
      ('\'' :: '\'' :: '\'' :: rest) := by
  have hnone : ∀ {c : Char} {cs : List Char}, (isPlain c && c ≠ '\'') = false →
      longLiteralPiece (c :: cs) = none := fun h => map_of_none (char_of_neg h) _
  induction cs with
  | nil =>
    refine .stop ?_
    rw [List.nil_append, longStep_quote (hnone (by decide)) (by decide)]
    exact map_of_none (innerQuote_end hrest) _
  | cons c cs ih =>
    have hmore := ih (fun d hd => hplain d (List.mem_cons_of_mem _ hd))
      fun h => hquotes (h.trans (List.suffix_cons c cs).isInfix)
    change Repeats _ _ ([c] ++ (cs ++ '\'' :: '\'' :: '\'' :: rest)) _
    refine .next (List.cons_ne_nil _ _) ?_ hmore
    by_cases hquote : c = '\''
    · subst hquote
      exact (longStep_quote (hnone (by decide)) (by decide)).trans
        (map_of_some (innerQuote_body (leadingQuotes_le hquotes) hrest) _)
    · rcases hplain c List.mem_cons_self with h | rfl
      · exact firstOf_of_some (map_of_some (char_of_pos (by simp [h, hquote])) _)
      · exact longStep_newline (hnone (by decide))

/-- A text between three single quotes is read back, if it can stand there as it is. -/
theorem longText_literal (hrest : StartsWithout ['\''] rest) (hplain : ∀ c ∈ cs, isPlain c = true ∨ c = '\n')
    (hquotes : ¬['\'', '\'', '\''] <:+: cs) :
    longText '\'' longLiteralPiece (QuoteStyle.longLiteral.apply cs ++ rest) =
      some (String.ofList cs, rest) := by
  refine longText_of_repeats (repeats_literal hrest hplain hquotes) fun hbreak => ?_
  cases cs with
  | nil => simp [StartsWithout]
  | cons c cs =>
    rw [List.mem_cons, not_or] at hbreak
    intro d hd
    obtain rfl : c = d := by simpa using hd
    rcases hplain c List.mem_cons_self with h | rfl
    · intro hmem
      simp only [List.mem_cons, List.not_mem_nil, or_false] at hmem
      rcases hmem with rfl | rfl <;> revert h <;> decide
    · exact absurd rfl hbreak.1

end LongLiteral

/-! ## Choosing quotes -/

/-- The texts that quotes of a kind can hold. -/
def QuoteStyle.Fits : QuoteStyle → List Char → Prop
  | .basic, _ => True
  | .literal, cs => ∀ c ∈ cs, isPlain c = true ∧ c ≠ '\''
  | .longBasic, _ => True
  | .longLiteral, cs => (∀ c ∈ cs, isPlain c = true ∨ c = '\n') ∧ ¬['\'', '\'', '\''] <:+: cs

/-- Without control characters, every character is plain or ends a line. -/
theorem isPlain_of_hasControl {cs : List Char} (h : hasControl cs = false) :
    ∀ c ∈ cs, isPlain c = true ∨ c = '\n' := by
  intro c hc
  have hnot := List.any_eq_false.1 h c hc
  cases hplain : isPlain c with
  | true => exact .inl rfl
  | false => exact .inr (by simpa [hplain] using hnot)

/-- A text on one line without control characters and single quotes can stand between single quotes. -/
theorem fits_literal {cs : List Char} (hcontrol : hasControl cs = false) (hbreak : '\n' ∉ cs)
    (hquote : '\'' ∉ cs) : QuoteStyle.literal.Fits cs := by
  intro c hc
  refine ⟨(isPlain_of_hasControl hcontrol c hc).resolve_right ?_, ?_⟩
  · exact fun h => hbreak (h ▸ hc)
  · exact fun h => hquote (h ▸ hc)

/-- The quotes that are chosen for a text can hold it. -/
theorem fits_ofText (cs : List Char) : (QuoteStyle.ofText cs).Fits cs := by
  simp only [QuoteStyle.ofText]
  split
  · trivial
  · split
    · next h =>
      simp only [Bool.and_eq_true, Bool.not_eq_true', List.contains_eq_mem, decide_eq_false_iff_not] at h
      exact fits_literal h.1.1 h.2 h.1.2
    · split
      · trivial
      · split
        · next h =>
          rw [Bool.and_eq_true, Bool.not_eq_true', Bool.not_eq_true', ← Bool.not_eq_true,
            ← Bool.not_eq_true] at h
          refine ⟨isPlain_of_hasControl (Bool.not_eq_true _ ▸ h.1), ?_⟩
          rw [← occursIn_iff_isInfix]
          exact h.2
        · split <;> trivial

/-- The quotes that are chosen for a key stand on one line and can hold it. -/
theorem fits_ofKey (cs : List Char) :
    QuoteStyle.ofKey cs = .basic ∨ QuoteStyle.ofKey cs = .literal ∧ QuoteStyle.literal.Fits cs := by
  simp only [QuoteStyle.ofKey]
  split
  · exact .inl rfl
  · next hbasic =>
    split
    · next hmark =>
      simp only [Bool.or_eq_true, Bool.and_eq_true, List.contains_eq_mem, decide_eq_true_eq, not_or,
        not_and] at hbasic hmark
      exact .inr ⟨rfl, fits_literal (Bool.eq_false_iff.2 hbasic.1.1) hbasic.1.2 (hbasic.2 hmark)⟩
    · exact .inl rfl

/-- **The forms of a key**: it stands as it is if it can, and in quotes on one line otherwise. -/
theorem writtenKey_cases (s : String) :
    (∃ c cs, s.toList = c :: cs ∧ (∀ d ∈ c :: cs, isKeyChar d = true) ∧ writtenKey s = c :: cs) ∨
    writtenKey s = QuoteStyle.basic.apply s.toList ∨
    (QuoteStyle.literal.Fits s.toList ∧ writtenKey s = QuoteStyle.literal.apply s.toList) := by
  simp only [writtenKey]
  split
  · next h =>
    rw [Bool.and_eq_true, Bool.not_eq_true', List.isEmpty_eq_false_iff, List.all_eq_true] at h
    obtain ⟨c, cs, hcs⟩ := List.exists_cons_of_ne_nil h.1
    exact .inl ⟨c, cs, hcs, fun d hd => h.2 d (hcs ▸ hd), hcs⟩
  · obtain hstyle | ⟨hstyle, hfits⟩ := fits_ofKey s.toList
    · exact .inr (.inl (by rw [hstyle]))
    · exact .inr (.inr ⟨hfits, by rw [hstyle]⟩)

/-! ## Reading texts and keys back -/

section ReadBack

variable {rest : List Char}

/-- Two quotes without a third one are no three quotes. -/
theorem longText_eq_none {quote : Char} {piece : Scan (List Char)} {body : List Char}
    (hbody : StartsWithout [quote] body) (hrest : StartsWithout [quote] rest) :
    longText quote piece (quote :: body ++ [quote] ++ rest) = none := by
  refine bind_of_none (count_char_of_lt ?_) _
  cases body with
  | nil => simp [takeWhile_eq_nil hrest]
  | cons c body =>
    have hc : c ≠ quote := by simpa using hbody c rfl
    simp [hc]

/-- A text in quotes that can hold it is read back. -/
theorem quotedText_apply {style : QuoteStyle} {cs : List Char} (h : style.Fits cs)
    (hrest : StartsWithout ['"', '\''] rest) :
    quotedText (style.apply cs ++ rest) = some (String.ofList cs, rest) := by
  have hbasic : StartsWithout ['"'] rest := hrest.mono (by simp)
  have hliteral : StartsWithout ['\''] rest := hrest.mono (by simp)
  -- a text in single quotes is none in double quotes
  have hdouble : ∀ {cs : List Char}, longText '"' longBasicPiece ('\'' :: cs) = none ∧
      basicText ('\'' :: cs) = none := fun {cs} =>
    ⟨bind_of_none (bind_of_none (char_of_neg (by decide)) _) _, bind_of_none (char_of_neg (by decide)) _⟩
  cases style with
  | basic =>
    have hbody : StartsWithout ['"'] (escapedFrom false 0 cs) := by
      cases cs with
      | nil => simp [StartsWithout, escapedFrom]
      | cons c cs =>
        rw [escapedFrom]
        by_cases hc : c = '"'
        · simp [hc, StartsWithout]
        · obtain ⟨d, tail, hform, hd, -⟩ := exists_escapedChar_eq_cons false hc
          simp [hc, hform, StartsWithout, hd]
    exact (firstOf_of_none (longText_eq_none hbody hbasic) _).trans (firstOf_of_some (basicText_apply cs rest))
  | literal =>
    have hbody : StartsWithout ['\''] cs := fun c hc => by
      simpa using (h c (List.mem_of_mem_head? hc)).2
    exact (firstOf_of_none hdouble.1 _).trans <| (firstOf_of_none hdouble.2 _).trans <|
      (firstOf_of_none (longText_eq_none hbody hliteral) _).trans <|
      firstOf_of_some (literalText_apply cs rest h)
  | longBasic => exact firstOf_of_some (longText_basic hbasic cs)
  | longLiteral =>
    exact (firstOf_of_none hdouble.1 _).trans <| (firstOf_of_none hdouble.2 _).trans <|
      firstOf_of_some (longText_literal hliteral h.1 h.2)

/-- **Texts are read back** from the form in which they are written. -/
theorem quotedText_writtenText (s : String) (hrest : StartsWithout ['"', '\''] rest) :
    quotedText (writtenText s ++ rest) = some (s, rest) := by
  rw [writtenText, quotedText_apply (fits_ofText _) hrest, String.ofList_toList]

/-- A key without quotes is read back. -/
theorem bareKey_append {cs : List Char} (hne : cs ≠ []) (h : ∀ c ∈ cs, isKeyChar c = true)
    (hrest : ∀ c ∈ rest.head?, isKeyChar c = false) :
    bareKey (cs ++ rest) = some (String.ofList cs, rest) := by
  cases cs with
  | nil => exact absurd rfl hne
  | cons c cs =>
    rw [List.forall_mem_cons] at h
    rw [List.cons_append, bareKey, bind_of_some (char_of_pos h.1), bind_of_some (charsWhile_append h.2 hrest),
      pure_eq]

/-- **Keys are read back** from the form in which they are written. -/
theorem key_writtenKey (s : String) (hrest : ∀ c ∈ rest.head?, isKeyChar c = false) :
    key (writtenKey s ++ rest) = some (s, rest) := by
  obtain ⟨c, cs, hs, hkey, hform⟩ | hform | ⟨hfits, hform⟩ := writtenKey_cases s
  · have hquotes : c ≠ '"' ∧ c ≠ '\'' := by
      have hc : isKeyChar c = true := hkey c List.mem_cons_self
      constructor <;> rintro rfl <;> revert hc <;> decide
    have hbasic : basicText (c :: cs ++ rest) = none :=
      bind_of_none (char_of_neg (by simpa using hquotes.1)) _
    have hliteral : literalText (c :: cs ++ rest) = none :=
      bind_of_none (char_of_neg (by simpa using hquotes.2)) _
    rw [hform, key, firstOf_of_none hbasic, firstOf_of_none hliteral, firstOf_singleton,
      bareKey_append (List.cons_ne_nil c cs) hkey hrest, ← hs, String.ofList_toList]
  · rw [hform]
    exact (firstOf_of_some (basicText_apply _ rest)).trans (by rw [String.ofList_toList])
  · have hbasic : basicText (QuoteStyle.literal.apply s.toList ++ rest) = none :=
      bind_of_none (char_of_neg (by decide)) _
    rw [hform, key, firstOf_of_none hbasic, firstOf_of_some (literalText_apply _ rest hfits),
      String.ofList_toList]

end ReadBack

end TraceDiagram.Toml
