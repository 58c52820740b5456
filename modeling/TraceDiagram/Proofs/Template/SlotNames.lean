import Mathlib.Data.List.Basic
import TraceDiagram.Proofs.Scanning
import TraceDiagram.Template.Library

/-! # Names in slots

A template of slots has names in double braces. Where such a name stands, it is read as a variable, and
nothing else.

* **`SlotName`** a name that nothing but a variable begins with; **`slotEnd`** what closes its slot.
* **`exactly_reserved`** no reserved word stands where a name stands.
* **`conditions_slot`** the name is read as a variable. Every other way to read an expression fails at the
  name or at what closes the slot, which the lemmas before it go through in turn. -/

namespace TraceDiagram.Template

open Text Text.Scan Words

/-! ## Slots -/

/-- The words that have a meaning of their own where a variable may stand. -/
def reservedWords : List String := ["true", "false", "True", "False", "not", "__tera_context"]

/-- Whether a name is that of a variable, and no reserved word begins it. -/
def isVariable : List Char → Bool
  | [] => false
  | c :: cs => isNameStart c && cs.all isNameChar && reservedWords.all fun word =>
    !word.toList.isPrefixOf (c :: cs)

/-- The name of a variable. -/
structure SlotName where
  /-- The characters. -/
  chars : List Char
  /-- They make up a name. -/
  isVariable : isVariable chars = true

/-- What closes a slot, and the text after it. -/
def slotEnd (rest : List Char) : List Char := ' ' :: '\x7d' :: '\x7d' :: rest

namespace SlotName

/-- The name as a string. -/
def text (n : SlotName) : String := String.ofList n.chars

/-- A name begins with a character that may start one and goes on with characters of names. -/
theorem exists_cons (n : SlotName) :
    ∃ c cs, n.chars = c :: cs ∧ isNameStart c = true ∧ ∀ d ∈ cs, isNameChar d = true := by
  obtain ⟨_ | ⟨c, cs⟩, h⟩ := n
  · cases h
  · simp only [Template.isVariable, Bool.and_eq_true, List.all_eq_true] at h
    exact ⟨c, cs, rfl, h.1.1, h.1.2⟩

/-- No reserved word begins a name. -/
theorem not_reserved (n : SlotName) {word : String} (hword : word ∈ reservedWords) :
    ¬word.toList <+: n.chars := by
  obtain ⟨_ | ⟨c, cs⟩, h⟩ := n
  · cases h
  · simp only [Template.isVariable, Bool.and_eq_true, List.all_eq_true] at h
    simpa [← List.isPrefixOf_iff_prefix] using h.2 word hword

/-- No reserved word stands where a name stands. -/
theorem exactly_reserved (n : SlotName) (rest : List Char) {word : String} (hword : word ∈ reservedWords) :
    exactly word (n.chars ++ slotEnd rest) = none := by
  refine exactly_of_absent fun hfront => ?_
  by_cases hle : word.toList.length ≤ n.chars.length
  · exact n.not_reserved hword
      (List.prefix_of_prefix_length_le hfront (List.prefix_append _ _) hle)
  · -- the blank behind the name would belong to the word
    have hblank : ∀ w ∈ reservedWords, ' ' ∉ w.toList := by decide
    have hbegin : n.chars ++ [' '] <+: n.chars ++ slotEnd rest :=
      ⟨'\x7d' :: '\x7d' :: rest, by simp [slotEnd]⟩
    have hlonger : n.chars ++ [' '] <+: word.toList := by
      refine List.prefix_of_prefix_length_le hbegin hfront ?_
      rw [List.length_append]
      exact Nat.lt_of_not_le hle
    exact hblank word hword (hlonger.subset (by simp))

end SlotName

/-! ## Characters of names -/

/-- No name begins with a blank. -/
theorem isGap_of_isNameStart {c : Char} (h : isNameStart c = true) : isGap c = false := by
  rw [Bool.eq_false_iff]
  intro hgap
  simp only [isGap, Bool.or_eq_true, decide_eq_true_eq] at hgap
  rcases hgap with ((rfl | rfl) | rfl) | rfl <;> exact absurd h (by decide)

/-- No name begins with a digit. -/
theorem isDigit_of_isNameStart {c : Char} (h : isNameStart c = true) : c.isDigit = false := by
  rw [Bool.eq_false_iff]
  intro hdigit
  have hletter : c.isAlpha = (decide (c.val ≥ 'A'.val ∧ c.val ≤ 'Z'.val) ||
      (decide (c.val ≥ 'a'.val) && decide (c.val ≤ 'z'.val))) := rfl
  simp only [isNameStart, hletter, Char.isDigit, Bool.or_eq_true, Bool.and_eq_true, decide_eq_true_eq,
    ge_iff_le, UInt32.le_iff_toNat_le] at h hdigit
  -- the digits stand in front of all letters
  have hupper : '9'.val.toNat < 'A'.val.toNat := by decide
  have hlower : '9'.val.toNat < 'a'.val.toNat := by decide
  rcases h with (h | h) | rfl
  · omega
  · omega
  · exact absurd hdigit.2 (by decide)

/-- Characters of other kinds do not stand in names. -/
theorem SlotName.not_mem_chars (n : SlotName) {c : Char} (hc : isNameChar c = false) : c ∉ n.chars := by
  obtain ⟨d, ds, hchars, hd, hds⟩ := n.exists_cons
  have hchar : isNameChar d = true := by
    simp only [isNameStart, isNameChar, Char.isAlphanum, Bool.or_eq_true] at hd ⊢
    exact hd.imp_left .inl
  rw [hchars]
  intro hmem
  rcases List.mem_cons.1 hmem with rfl | hmem
  · rw [hchar] at hc
    cases hc
  · rw [hds c hmem] at hc
    cases hc

section Readers

variable (r : ExprReaders) (n : SlotName) (rest : List Char)

/-! ## What closes a slot -/

/-- Nothing but what closes a slot stands there, blanks passed over. -/
theorem lexeme_slotEnd {α : Type} (p : Scan α) : lexeme p (slotEnd rest) = p ('\x7d' :: '\x7d' :: rest) := by
  have hgap : gap (slotEnd rest) = some ((), '\x7d' :: '\x7d' :: rest) := rfl
  rw [lexeme, seqRight_of_some hgap]

theorem sign_slotEnd {word : String} (h : ∃ d ∈ word.toList.head?, d ≠ '\x7d') :
    sign word (slotEnd rest) = none := by
  rw [sign, lexeme_slotEnd, exactly_of_ne h]

/-- A slot is closed by a tag that leaves blanks alone. -/
theorem tagEnd_slotEnd : lexeme (tagEnd '\x7d') (slotEnd rest) = some (false, rest) := by
  have hplain : (exactly (String.ofList (closer '\x7d')) *> pure false : Scan Bool)
      ('\x7d' :: '\x7d' :: rest) = some (false, rest) :=
    (seqRight_of_some (exactly_append (String.ofList (closer '\x7d')) rest) _).trans rfl
  have htrim : exactly (String.ofList ('-' :: closer '\x7d')) ('\x7d' :: '\x7d' :: rest) = none :=
    exactly_of_ne ⟨'-', by simp, by decide⟩
  rw [lexeme_slotEnd, tagEnd, orElse_of_none (seqRight_of_none htrim _), hplain]

/-- Behind a name no further part of a variable follows. -/
theorem dottedPart_slotEnd : dottedPart (slotEnd rest) = none := bind_of_none (char_of_neg rfl) _

theorem bracket_slotEnd : r.bracket (slotEnd rest) = none :=
  bind_of_none (exactly_of_ne ⟨'[', rfl, by decide⟩) _

/-! ## Names -/

theorem nameChars_slot : nameChars (n.chars ++ slotEnd rest) = some (n.chars, slotEnd rest) := by
  obtain ⟨c, cs, hchars, hc, hcs⟩ := n.exists_cons
  have hread : charsWhile isNameChar (cs ++ slotEnd rest) = some (cs, slotEnd rest) :=
    charsWhile_append hcs (by simp [slotEnd]; decide)
  rw [hchars, List.cons_append, nameChars, bind_of_some (char_of_pos hc), bind_of_some hread, pure_eq]

theorem identifier_slot : identifier (n.chars ++ slotEnd rest) = some (n.text, slotEnd rest) :=
  map_of_some (nameChars_slot n rest) _

theorem dottedName_slot : dottedName (n.chars ++ slotEnd rest) = some (n.chars, slotEnd rest) := by
  rw [dottedName, bind_of_some (nameChars_slot n rest),
    bind_of_some (many_of_none (dottedPart_slotEnd rest)), pure_eq, List.flatten_nil, List.append_nil]

theorem pathText_slot : r.pathText (n.chars ++ slotEnd rest) = some (n.chars, slotEnd rest) := by
  have hparts : (dottedPart <|> r.bracket) (slotEnd rest) = none := by
    rw [orElse_of_none (dottedPart_slotEnd rest), bracket_slotEnd]
  rw [ExprReaders.pathText, bind_of_some (dottedName_slot n rest), bind_of_some (many_of_none hparts),
    pure_eq, List.flatten_nil, List.append_nil]

theorem pathTerm_slot : r.pathTerm (n.chars ++ slotEnd rest) = some (.path n.text, slotEnd rest) :=
  map_of_some (pathText_slot r n rest) _

/-! ## What a name is not -/

/-- No character outside names stands where a name begins. -/
theorem char_slot {kind : Char → Bool} (h : ∀ c, isNameStart c = true → kind c = false) :
    char kind (n.chars ++ slotEnd rest) = none := by
  obtain ⟨c, cs, hchars, hc, -⟩ := n.exists_cons
  rw [hchars]
  exact char_of_neg (h c hc)

/-- No sign stands where a name begins. -/
theorem exactly_slot {word : String} (h : ∃ d ∈ word.toList.head?, isNameStart d = false) :
    exactly word (n.chars ++ slotEnd rest) = none := by
  obtain ⟨c, cs, hchars, hc, -⟩ := n.exists_cons
  obtain ⟨d, hd, hstart⟩ := h
  rw [hchars]
  refine exactly_of_ne ⟨d, hd, ?_⟩
  rintro rfl
  rw [hstart] at hc
  cases hc

theorem gap_slot : gap (n.chars ++ slotEnd rest) = some ((), n.chars ++ slotEnd rest) := by
  obtain ⟨c, cs, hchars, hc, -⟩ := n.exists_cons
  rw [gap, hchars, List.cons_append, List.dropWhile_cons_of_neg]
  rw [isGap_of_isNameStart hc]
  decide

/-- A name is read without passing over anything. -/
theorem lexeme_slot {α : Type} (p : Scan α) :
    lexeme p (n.chars ++ slotEnd rest) = p (n.chars ++ slotEnd rest) := by
  rw [lexeme, seqRight_of_some (gap_slot n rest)]

theorem truthValue_slot : truthValue (n.chars ++ slotEnd rest) = none := by
  refine firstOf_eq_none fun p hp => ?_
  simp only [List.mem_cons, List.not_mem_nil, or_false] at hp
  rcases hp with rfl | rfl | rfl | rfl <;>
    exact seqRight_of_none (n.exactly_reserved rest (by decide)) _

/-- A name is no number. -/
theorem wholeText_slot : wholeText (n.chars ++ slotEnd rest) = none := by
  -- the sign may be missing, but then a digit has to follow
  have hminus : minus (n.chars ++ slotEnd rest) = some (false, n.chars ++ slotEnd rest) :=
    present_of_none (exactly_slot n rest ⟨'-', rfl, by decide⟩)
  have hzero : char (· = '0') (n.chars ++ slotEnd rest) = none := by
    refine char_slot n rest fun c hc => ?_
    rw [decide_eq_false_iff_not]
    rintro rfl
    cases hc
  have hdigit : char (fun c => c.isDigit && c ≠ '0') (n.chars ++ slotEnd rest) = none := by
    refine char_slot n rest fun c hc => ?_
    rw [isDigit_of_isNameStart hc, Bool.false_and]
  have hdigits : digits (n.chars ++ slotEnd rest) = none := by
    rw [digits, orElse_of_none (bind_of_none hzero _), bind_of_none hdigit]
  rw [wholeText, bind_of_some hminus, bind_of_none hdigits]

theorem fraction_slot : fraction (n.chars ++ slotEnd rest) = none := bind_of_none (wholeText_slot n rest) _

theorem wholeNumber_slot : wholeNumber (n.chars ++ slotEnd rest) = none :=
  bind_of_none (wholeText_slot n rest) _

/-- A name is no text in quotes. -/
theorem quotedText_slot : quotedText (n.chars ++ slotEnd rest) = none := by
  refine map_of_none (firstOf_eq_none fun p hp => ?_) _
  obtain ⟨quote, hquote, rfl⟩ := List.mem_map.1 hp
  refine map_of_none (bind_of_none (char_slot n rest fun c hc => ?_) _) _
  rw [decide_eq_false_iff_not]
  rintro rfl
  have hstart : ∀ q ∈ ['"', '\'', '`'], isNameStart q = false :=
    List.forall_mem_cons.2 ⟨rfl, List.forall_mem_cons.2 ⟨rfl, List.forall_mem_singleton.2 rfl⟩⟩
  rw [hstart c hquote] at hc
  cases hc

/-- No arguments follow a name. -/
theorem functionCall_slot : r.functionCall (n.chars ++ slotEnd rest) = none := by
  have harguments : r.arguments (slotEnd rest) = none :=
    bind_of_none (sign_slotEnd rest ⟨'(', rfl, by decide⟩) _
  rw [ExprReaders.functionCall, bind_of_some (identifier_slot n rest), bind_of_none harguments]

/-- No macro follows a name. -/
theorem macroCall_slot : r.macroCall (n.chars ++ slotEnd rest) = none := by
  rw [ExprReaders.macroCall, bind_of_some (identifier_slot n rest),
    bind_of_none (sign_slotEnd rest ⟨':', rfl, by decide⟩)]

/-- No test follows a name. -/
theorem test_slot (negated : Bool) : r.test negated (n.chars ++ slotEnd rest) = none := by
  rw [ExprReaders.test, bind_of_some (pathText_slot r n rest),
    bind_of_none (sign_slotEnd rest ⟨'i', rfl, by decide⟩)]

/-! ## Names as expressions -/

theorem concatItem_slot : r.concatItem (n.chars ++ slotEnd rest) = some (.path n.text, slotEnd rest) := by
  rw [ExprReaders.concatItem, firstOf_of_none (map_of_none (functionCall_slot r n rest) _),
    firstOf_of_none (map_of_none (fraction_slot n rest) _),
    firstOf_of_none (map_of_none (wholeNumber_slot n rest) _),
    firstOf_of_none (map_of_none (quotedText_slot n rest) _), firstOf_of_some (pathTerm_slot r n rest)]

/-- A name is not one of several terms written one after the other. -/
theorem filteredText_slot : r.filteredText (n.chars ++ slotEnd rest) = none := by
  -- the name would be the first term, but no second one follows
  have hconcatenation : r.concatenation (n.chars ++ slotEnd rest) = none := by
    rw [ExprReaders.concatenation, bind_of_some (concatItem_slot r n rest)]
    exact bind_of_none (seqRight_of_none (sign_slotEnd rest ⟨'~', rfl, by decide⟩) _) _
  refine bind_of_none ?_ _
  rw [orElse_of_none hconcatenation, map_of_none (quotedText_slot n rest)]

theorem basicTerm_slot : r.basicTerm (n.chars ++ slotEnd rest) = some (.path n.text, slotEnd rest) := by
  rw [ExprReaders.basicTerm, firstOf_of_none (map_of_none (truthValue_slot n rest) _),
    firstOf_of_none (test_slot r n rest true), firstOf_of_none (test_slot r n rest false),
    firstOf_of_none (macroCall_slot r n rest),
    firstOf_of_none (map_of_none (functionCall_slot r n rest) _),
    firstOf_of_some (pathTerm_slot r n rest)]

theorem basicOperand_slot :
    r.basicOperand (n.chars ++ slotEnd rest) = some (.path n.text, slotEnd rest) := by
  have hopen : exactly "(" (n.chars ++ slotEnd rest) = none := exactly_slot n rest ⟨'(', rfl, by decide⟩
  rw [ExprReaders.basicOperand, orElse_of_none (seqLeft_of_none (seqRight_of_none hopen _) _),
    basicTerm_slot]

/-- No operator on numbers follows a name. -/
theorem mathOp_slotEnd : lexeme MathOp.scan (slotEnd rest) = none := by
  rw [lexeme_slotEnd]
  refine firstOf_eq_none fun p hp => ?_
  simp only [List.mem_cons, List.not_mem_nil, or_false] at hp
  rcases hp with rfl | rfl | rfl | rfl | rfl <;>
    exact seqRight_of_none (exactly_of_ne ⟨_, rfl, by decide⟩) _

theorem basicTerms_slot : r.basicTerms (n.chars ++ slotEnd rest) = some (.path n.text, slotEnd rest) := by
  rw [ExprReaders.basicTerms, bind_of_some (basicOperand_slot r n rest),
    bind_of_some (many_of_none (seq_of_none (map_of_none (mathOp_slotEnd rest) _) _)), pure_eq]
  rfl

/-- The expression that a name alone is. -/
def SlotName.expr (n : SlotName) : Expr := .mk (.path n.text) false []

theorem filteredBasic_slot : r.filteredBasic (n.chars ++ slotEnd rest) = some (n.expr, slotEnd rest) := by
  have hfilter : r.filter (slotEnd rest) = none :=
    seqRight_of_none (sign_slotEnd rest ⟨'|', rfl, by decide⟩) _
  rw [ExprReaders.filteredBasic, bind_of_some (basicTerms_slot r n rest),
    bind_of_some (many_of_none hfilter), pure_eq]
  rfl

theorem comparand_slot : r.comparand (n.chars ++ slotEnd rest) = some (n.expr, slotEnd rest) := by
  rw [ExprReaders.comparand, bind_of_some (filteredBasic_slot r n rest),
    bind_of_some (many_of_none (seq_of_none (map_of_none (mathOp_slotEnd rest) _) _)), pure_eq]
  rfl

theorem side_slot : r.side (n.chars ++ slotEnd rest) = some (n.expr, slotEnd rest) := by
  rw [ExprReaders.side, orElse_of_none (filteredText_slot r n rest), comparand_slot]

/-- No comparison follows a name. -/
theorem comparisonOp_slotEnd : lexeme LogicOp.scanComparison (slotEnd rest) = none := by
  rw [lexeme_slotEnd]
  refine firstOf_eq_none fun p hp => ?_
  simp only [List.mem_cons, List.not_mem_nil, or_false] at hp
  rcases hp with rfl | rfl | rfl | rfl | rfl | rfl <;>
    exact seqRight_of_none (exactly_of_ne ⟨_, rfl, by decide⟩) _

theorem comparison_slot : r.comparison (n.chars ++ slotEnd rest) = some (n.expr, slotEnd rest) := by
  have hright : optional (Prod.mk <$> lexeme LogicOp.scanComparison <*> lexeme r.side) (slotEnd rest) =
      some (none, slotEnd rest) :=
    optional_of_none (seq_of_none (map_of_none (comparisonOp_slotEnd rest) _) _)
  rw [ExprReaders.comparison, bind_of_some (side_slot r n rest), bind_of_some hright, pure_eq]

/-- A name is not asked whether a container holds it. -/
theorem membership_slot : r.membership (n.chars ++ slotEnd rest) = none := by
  have hitem : (r.filteredText <|> r.filteredBasic) (n.chars ++ slotEnd rest) =
      some (n.expr, slotEnd rest) := by
    rw [orElse_of_none (filteredText_slot r n rest), filteredBasic_slot]
  have hnegation : lexeme negation (slotEnd rest) = none := by
    rw [lexeme_slotEnd]
    exact seqRight_of_none (seqRight_of_none (exactly_of_ne ⟨'n', rfl, by decide⟩) _) _
  rw [ExprReaders.membership, bind_of_some hitem, bind_of_some (present_of_none hnegation),
    bind_of_none (sign_slotEnd rest ⟨'i', rfl, by decide⟩)]

theorem oneCondition_slot : r.oneCondition (n.chars ++ slotEnd rest) = some (n.expr, slotEnd rest) := by
  have hnegation : negation (n.chars ++ slotEnd rest) = none :=
    seqRight_of_none (seqRight_of_none (n.exactly_reserved rest (by decide)) _) _
  have hread : lexeme (firstOf [r.membership, r.comparison, exactly "(" *> lexeme r.logic <* sign ")"])
      (n.chars ++ slotEnd rest) = some (n.expr, slotEnd rest) := by
    rw [lexeme_slot, firstOf_of_none (membership_slot r n rest),
      firstOf_of_some (comparison_slot r n rest)]
  rw [ExprReaders.oneCondition, bind_of_some (present_of_none hnegation), bind_of_some hread, pure_eq]
  rfl

/-- No further condition follows a name. -/
theorem junction_slotEnd : lexeme LogicOp.scanJunction (slotEnd rest) = none := by
  rw [lexeme_slotEnd]
  refine firstOf_eq_none fun p hp => ?_
  simp only [List.mem_cons, List.not_mem_nil, or_false] at hp
  rcases hp with rfl | rfl <;>
    exact seqRight_of_none (seqRight_of_none (exactly_of_ne ⟨_, rfl, by decide⟩) _) _

theorem conditions_slot : r.conditions (n.chars ++ slotEnd rest) = some (n.expr, slotEnd rest) := by
  rw [ExprReaders.conditions, bind_of_some (oneCondition_slot r n rest),
    bind_of_some (many_of_none (seq_of_none (map_of_none (junction_slotEnd rest) _) _)), pure_eq]
  rfl

end Readers

end TraceDiagram.Template
