import TraceDiagram.Proofs.Template.SlotNames

/-! # Templates of slots

A template that consists of running text and of names in double braces is read as exactly that.

* **`Piece`** running text or a slot, **`written`** their template; **`Separate`** pieces that can be told
  from each other.
* **`outerNode_piece`** one piece is read; **`readNodes_written`** all of them are, one after the other.
* **`read?_written`** the template that is read has these pieces and nothing else. -/

namespace TraceDiagram.Template

open Text Text.Scan Words

/-! ## Pieces -/

/-- A piece of a template of slots. -/
inductive Piece where
  /-- Running text. -/
  | text (chars : List Char)
  /-- The slot of a variable. -/
  | slot (name : SlotName)

namespace Piece

/-- How a piece is written, with the text after it. -/
def writtenBefore : Piece → List Char → List Char
  | .text chars, rest => chars ++ rest
  | .slot name, rest => opener '\x7b' ++ ' ' :: (name.chars ++ slotEnd rest)

/-- What a piece is read as. -/
def node : Piece → Node
  | .text chars => .text (String.ofList chars)
  | .slot name => .print ⟨false, false⟩ name.expr

/-- Whether a piece is running text. -/
def isText : Piece → Bool
  | .text _ => true
  | .slot _ => false

/-- Whether a piece can be told from the pieces around it: running text has some characters, none of them a
brace that opens a tag. -/
def isPlain : Piece → Bool
  | .text chars => !chars.isEmpty && chars.all (· ≠ '\x7b')
  | .slot _ => true

end Piece

/-- The template of some pieces. -/
def written (pieces : List Piece) : List Char := pieces.foldr Piece.writtenBefore []

/-- Whether pieces are those of a template: each can be told from the others, and no two running texts stand
side by side. -/
def Separate : List Piece → Prop
  | [] => True
  | p :: rest => p.isPlain = true ∧ (p.isText = true → ∀ q ∈ rest.head?, q.isText = false) ∧ Separate rest

instance decidableSeparate : (pieces : List Piece) → Decidable (Separate pieces)
  | [] => inferInstanceAs (Decidable True)
  | p :: rest =>
    have := decidableSeparate rest
    inferInstanceAs (Decidable (p.isPlain = true ∧ (p.isText = true → ∀ q ∈ rest.head?, q.isText = false) ∧
      Separate rest))

/-! ## Reading pieces -/

section Tags

variable {cs : List Char}

/-- No tag is read where no tag of its kind begins. -/
theorem tagStart_of_absent {second : Char} (h : ¬opener second <+: cs) : tagStart second cs = none := by
  have hplain : exactly (String.ofList (opener second)) cs = none :=
    exactly_of_absent (by rwa [String.toList_ofList])
  have htrim : exactly (String.ofList (opener second ++ ['-'])) cs = none := by
    refine exactly_of_absent fun hfront => h ?_
    rw [String.toList_ofList] at hfront
    exact (List.prefix_append _ _).trans hfront
  rw [tagStart, orElse_of_none (seqRight_of_none htrim _), seqRight_of_none hplain]

theorem tag_of_absent {α : Type} (h : ¬opener '%' <+: cs) (body : Scan α) : tag body cs = none :=
  bind_of_none (tagStart_of_absent h) _

theorem wordTag_of_absent (h : ¬opener '%' <+: cs) (word : String) : wordTag word cs = none :=
  map_of_none (tag_of_absent h _) _

theorem comment_of_absent (h : ¬opener '#' <+: cs) : comment cs = none :=
  bind_of_none (tagStart_of_absent h) _

theorem inheritTag_of_absent (h : ¬opener '%' <+: cs) : inheritTag cs = none :=
  bind_of_none (tag_of_absent h _) _

theorem printNode_of_absent (h : ¬opener '\x7b' <+: cs) (r : ExprReaders) : r.printNode cs = none :=
  map_of_none (bind_of_none (tagStart_of_absent h) _) _

/-- A single alternative is that alternative. -/
theorem firstOf_singleton {α : Type} (p : Scan α) (cs : List Char) : firstOf [p] cs = p cs := by
  cases h : p cs with
  | none => rw [firstOf_of_none h]; rfl
  | some x => rw [firstOf_of_some h]

variable (r : NodeReaders)

/-- Where no tag with a percent sign begins, a piece is a print tag, a comment or running text. -/
theorem outerNode_of_absent (h : ¬opener '%' <+: cs) :
    r.outerNode cs = firstOf [r.expr.printNode, comment, runningText] cs := by
  have huse : useMacrosTag cs = none := bind_of_none (tag_of_absent h _) _
  have hmacro : r.macroNode cs = none := bind_of_none (tag_of_absent h _) _
  have hembed : embedTag cs = none := bind_of_none (tag_of_absent h _) _
  rw [NodeReaders.outerNode, firstOf_of_none huse, firstOf_of_none hmacro, firstOf_singleton,
    NodeReaders.node, firstOf_of_none hembed, firstOf_of_none rfl]
  -- both sides try print tags and comments first; only then the order of alternatives differs
  cases hprint : r.expr.printNode cs with
  | some read => rw [firstOf_of_some hprint, firstOf_of_some hprint]
  | none =>
    rw [firstOf_of_none hprint, firstOf_of_none hprint]
    cases hcomment : comment cs with
    | some read => rw [firstOf_of_some hcomment, firstOf_of_some hcomment]
    | none =>
      have hassign : ∀ word everywhere, r.expr.assignTag word everywhere cs = none := fun _ _ =>
        bind_of_none (tag_of_absent h _) _
      have hblock : (if Place.outside.allowsBlocks then r.blockNode else failure) cs = none := by
        have hallows : Place.outside.allowsBlocks = true := rfl
        rw [if_pos hallows]
        exact bind_of_none (tag_of_absent h _) _
      have hcond : r.condNode .outside cs = none := bind_of_none (tag_of_absent h _) _
      have hloop : r.loopNode cs = none := bind_of_none (tag_of_absent h _) _
      have hfiltered : r.filteredNode cs = none := bind_of_none (tag_of_absent h _) _
      have hraw : rawText cs = none := bind_of_none (wordTag_of_absent h _) _
      rw [firstOf_of_none hcomment, firstOf_of_none hcomment, firstOf_of_none (hassign _ _),
        firstOf_of_none (hassign _ _), firstOf_of_none hblock, firstOf_of_none hcond,
        firstOf_of_none hloop, firstOf_of_none rfl, firstOf_of_none hfiltered, firstOf_of_none hraw]

end Tags

section Pieces

variable {r : NodeReaders} {e : ExprReaders} {pieces : List Piece} {rest : List Char}

/-- A slot is read as a print tag for its variable. -/
theorem printNode_slot (e : ExprReaders) (n : SlotName) (rest : List Char) :
    e.next.printNode ((Piece.slot n).writtenBefore rest) = some ((Piece.slot n).node, rest) := by
  have hplain : exactly (String.ofList (opener '\x7b')) ((Piece.slot n).writtenBefore rest) =
      some ((), ' ' :: (n.chars ++ slotEnd rest)) := by
    rw [Piece.writtenBefore]
    exact exactly_append (String.ofList (opener '\x7b')) _
  have htrim : exactly (String.ofList (opener '\x7b' ++ ['-'])) ((Piece.slot n).writtenBefore rest) =
      none := by
    refine exactly_of_absent ?_
    simp [Piece.writtenBefore, opener, List.cons_prefix_cons]
  have hstart : tagStart '\x7b' ((Piece.slot n).writtenBefore rest) =
      some (false, ' ' :: (n.chars ++ slotEnd rest)) := by
    rw [tagStart, orElse_of_none (seqRight_of_none htrim _), seqRight_of_some hplain, pure_eq]
  have hgap : gap (' ' :: (n.chars ++ slotEnd rest)) = some ((), n.chars ++ slotEnd rest) :=
    gap_slot n rest
  have hvalue : lexeme e.next.value (' ' :: (n.chars ++ slotEnd rest)) = some (n.expr, slotEnd rest) := by
    rw [lexeme, seqRight_of_some hgap]
    exact orElse_of_some (conditions_slot e n rest)
  have htag : printTag e.next.value ((Piece.slot n).writtenBefore rest) =
      some ((⟨false, false⟩, n.expr), rest) := by
    rw [printTag, bind_of_some hstart, bind_of_some hvalue, bind_of_some (tagEnd_slotEnd rest), pure_eq]
  exact map_of_some htag _

/-- Running text in front of a slot or at the end is read as a whole. -/
theorem untilTag_append {chars : List Char} (hchars : '\x7b' ∉ chars)
    (hrest : rest = [] ∨ opener '\x7b' <+: rest) : untilTag (chars ++ rest) = (chars, rest) := by
  induction chars with
  | nil =>
    rcases hrest with rfl | ⟨after, rfl⟩
    · rfl
    · rfl
  | cons c chars ih =>
    have hc : c ≠ '\x7b' := fun h => hchars (h ▸ List.mem_cons_self)
    have hstart : startsTag (c :: (chars ++ rest)) = false := by
      rw [startsTag.eq_def]
      split
      · next heq => exact absurd (List.cons.inj heq).1 hc
      · rfl
    rw [List.cons_append, untilTag, hstart, ih fun h => hchars (List.mem_cons_of_mem c h)]
    rfl

/-- Running text is read as that. -/
theorem runningText_append {c : Char} {chars : List Char} (hchars : '\x7b' ∉ c :: chars)
    (hrest : rest = [] ∨ opener '\x7b' <+: rest) :
    runningText (c :: chars ++ rest) = some (.text (String.ofList (c :: chars)), rest) := by
  rw [runningText, untilTag_append hchars hrest]

/-- Running text has characters, none of which opens a tag. -/
theorem Piece.exists_cons_of_isPlain {chars : List Char} (h : (Piece.text chars).isPlain = true) :
    ∃ c cs, chars = c :: cs ∧ '\x7b' ∉ c :: cs := by
  rw [isPlain, Bool.and_eq_true, List.all_eq_true] at h
  obtain ⟨c, cs, rfl⟩ := List.exists_cons_of_ne_nil (l := chars) (by simpa using h.1)
  exact ⟨c, cs, rfl, fun hmem => by simpa using h.2 _ hmem⟩

/-- Where a piece of a template of slots is written, no other tag than that of a slot begins. -/
theorem Piece.opener_absent {p : Piece} (hp : p.isPlain = true) {second : Char} (hsecond : second ≠ '\x7b')
    (rest : List Char) : ¬opener second <+: p.writtenBefore rest := by
  cases p with
  | slot n => simp [Piece.writtenBefore, opener, List.cons_prefix_cons, hsecond]
  | text chars =>
    obtain ⟨c, chars, rfl, hchars⟩ := Piece.exists_cons_of_isPlain hp
    have hc : '\x7b' ≠ c := fun h => hchars (h ▸ List.mem_cons_self)
    simp [Piece.writtenBefore, opener, List.cons_prefix_cons, hc]

/-- **Step lemma**: one piece is read. -/
theorem outerNode_piece (hr : r.expr = e.next) {p : Piece} (hp : p.isPlain = true)
    (hrest : p.isText = true → rest = [] ∨ opener '\x7b' <+: rest) :
    r.outerNode (p.writtenBefore rest) = some (p.node, rest) := by
  rw [outerNode_of_absent r (p.opener_absent hp (by decide) rest), hr]
  -- a slot is the first alternative, and running text the last one
  cases p with
  | slot n => rw [firstOf_of_some (printNode_slot e n rest)]
  | text chars =>
    obtain ⟨c, chars, rfl, hchars⟩ := Piece.exists_cons_of_isPlain hp
    have hprint : e.next.printNode ((Piece.text (c :: chars)).writtenBefore rest) = none := by
      refine printNode_of_absent ?_ _
      have hc : '\x7b' ≠ c := fun h => hchars (h ▸ List.mem_cons_self)
      simp [Piece.writtenBefore, opener, List.cons_prefix_cons, hc]
    rw [firstOf_of_none hprint,
      firstOf_of_none (comment_of_absent (Piece.opener_absent hp (by decide) rest)), firstOf_singleton]
    exact runningText_append hchars (hrest rfl)

/-- A slot stands at the start of what follows running text, if anything does. -/
theorem opener_of_separate {p : Piece} (h : Separate (p :: pieces)) (hp : p.isText = true) :
    written pieces = [] ∨ opener '\x7b' <+: written pieces := by
  cases pieces with
  | nil => exact .inl rfl
  | cons q pieces =>
    have hq := h.2.1 hp q rfl
    cases q with
    | text chars => cases hq
    | slot n => exact .inr (List.prefix_append _ _)

/-- **Run lemma**: the pieces of a template are read one after the other. -/
theorem manyUpTo_outerNode (hr : r.expr = e.next) (h : Separate pieces) {fuel : Nat}
    (hfuel : pieces.length ≤ fuel) :
    manyUpTo r.outerNode fuel (written pieces) = some (pieces.map Piece.node, []) := by
  induction pieces generalizing fuel with
  | nil =>
    have hend : r.outerNode [] = none := by
      rw [outerNode_of_absent r (by simp [opener])]
      exact firstOf_eq_none fun p hp => by
        simp only [List.mem_cons, List.not_mem_nil, or_false] at hp
        rcases hp with rfl | rfl | rfl
        · exact printNode_of_absent (by simp [opener]) _
        · exact comment_of_absent (by simp [opener])
        · rfl
    exact manyUpTo_of_none hend fuel
  | cons p pieces ih =>
    obtain ⟨fuel, rfl⟩ : ∃ k, fuel = k + 1 := ⟨fuel - 1, by
      rw [List.length_cons] at hfuel
      omega⟩
    exact manyUpTo_of_some (outerNode_piece hr h.1 (opener_of_separate h))
      (ih h.2.2 (Nat.le_of_succ_le_succ hfuel))

/-- Every piece of a template has some characters. -/
theorem length_le_length_written (h : Separate pieces) : pieces.length ≤ (written pieces).length := by
  induction pieces with
  | nil => exact Nat.le_refl 0
  | cons p pieces ih =>
    have hmore := ih h.2.2
    have hpiece : (written pieces).length < (p.writtenBefore (written pieces)).length := by
      cases p with
      | slot n => simp [Piece.writtenBefore, opener, slotEnd]; omega
      | text chars =>
        obtain ⟨c, chars, rfl, -⟩ := Piece.exists_cons_of_isPlain h.1
        rw [Piece.writtenBefore, List.length_append, List.length_cons]
        omega
    rw [written, List.foldr_cons, ← written, List.length_cons]
    omega

theorem expr_nodeReaders (e : ExprReaders) (depth : Nat) : (nodeReaders e depth).expr = e := by
  induction depth with
  | zero => rfl
  | succ depth ih => exact ih

/-- **A template of slots is read as its pieces.** -/
theorem readNodes_written (h : Separate pieces) :
    readNodes (written pieces) = some (pieces.map Piece.node) := by
  have hother : ∀ {second : Char}, second ≠ '\x7b' → ¬opener second <+: written pieces := by
    intro second hsecond
    cases pieces with
    | nil => simp [written, opener]
    | cons p pieces => exact Piece.opener_absent h.1 hsecond _
  -- neither comments nor a parent stand in front, so the body is everything
  have hcomments := many_of_none (comment_of_absent (hother (by decide)))
  have hparent := optional_of_none (inheritTag_of_absent (hother (by decide)))
  -- a text is long enough to read its pieces, as each takes a character at least
  have hbody : many (nodeReaders (exprReaders ((written pieces).length + 1))
      ((written pieces).length + 1)).outerNode (written pieces) = some (pieces.map Piece.node, []) :=
    manyUpTo_outerNode (expr_nodeReaders _ _) h
      (Nat.le_succ_of_le (length_le_length_written h))
  rw [readNodes, wholeTemplate, bind_of_some hcomments, bind_of_some hparent, bind_of_some hbody]
  rfl

end Pieces

/-! ## Templates -/

/-- The template of some pieces. -/
def ofPieces (pieces : List Piece) : Template where
  nodes := pieces.map Piece.node
  parent := none
  blocks := []
  macros := []
  macroSources := []

section Templates

variable (pieces : List Piece)

/-- There is nothing to trim around slots. -/
theorem done_trimInto (s : TrimState) (hs : s.trimNext = false) :
    (trimInto s (pieces.map Piece.node)).done = (pieces.map Piece.node).reverse ++ s.done := by
  induction pieces generalizing s with
  | nil => rw [List.map_nil, trimInto, List.reverse_nil, List.nil_append]
  | cons p pieces ih =>
    -- the tag of a slot asks for no trimming before or behind it
    have hstep : (trimNode s p.node).trimNext = false ∧ (trimNode s p.node).done = p.node :: s.done := by
      cases p with
      | text chars => simp [Piece.node, trimNode, TrimState.addText, hs]
      | slot n => simp [Piece.node, trimNode, TrimState.addTag, TrimState.before, trimLast]
    rw [List.map_cons, trimInto, ih _ hstep.1, hstep.2, List.reverse_cons, List.append_assoc,
      List.singleton_append]

theorem trimNodes_pieces : trimNodes (pieces.map Piece.node) = pieces.map Piece.node := by
  rw [trimNodes, trimBody, done_trimInto _ _ rfl]
  simp [trimLast]

theorem blocksOf_pieces : Template.blocksOf (pieces.map Piece.node) = [] := by
  induction pieces with
  | nil => rw [List.map_nil, Template.blocksOf]
  | cons p pieces ih => cases p <;> simp [Piece.node, Template.blocksOf, ih]

/-- What neither running text nor a print tag has is not there. -/
theorem filterMap_pieces {α : Type} {f : Node → Option α} (htext : ∀ s, f (.text s) = none)
    (hprint : ∀ t e, f (.print t e) = none) : (pieces.map Piece.node).filterMap f = [] := by
  rw [List.filterMap_eq_nil_iff]
  intro node hnode
  obtain ⟨p, -, rfl⟩ := List.mem_map.1 hnode
  cases p with
  | text chars => exact htext _
  | slot n => exact hprint _ _

theorem ofNodes?_pieces : Template.ofNodes? (pieces.map Piece.node) = some (ofPieces pieces) := by
  have hparent : ∀ {f : Node → Option String}, (∀ s, f (.text s) = none) →
      (∀ t e, f (.print t e) = none) → (pieces.map Piece.node).findSome? f = none := by
    intro f htext hprint
    rw [← List.head?_filterMap, filterMap_pieces pieces htext hprint, List.head?_nil]
  rw [Template.ofNodes?, blocksOf_pieces, filterMap_pieces pieces (fun _ => rfl) fun _ _ => rfl,
    filterMap_pieces pieces (fun _ => rfl) fun _ _ => rfl, hparent (fun _ => rfl) fun _ _ => rfl]
  exact if_pos ⟨List.nodup_nil, List.nodup_nil⟩

/-- **A template of slots** inherits nothing, and has no blocks and no macros. -/
theorem read?_written {pieces : List Piece} (h : Separate pieces) :
    Template.read? (String.ofList (written pieces)) = some (ofPieces pieces) := by
  rw [Template.read?, String.toList_ofList, readNodes_written h, Option.bind_some, trimNodes_pieces,
    ofNodes?_pieces]

end Templates

end TraceDiagram.Template
