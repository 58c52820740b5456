import Mathlib.Data.List.TakeWhile
import TraceDiagram.Proofs.Template.Slots
import TraceDiagram.Template.Render

/-! # What slots are filled with

* **`Piece.fill`** and **`fill`** the text of a template of slots for given values of the variables, if it
  has all that it needs.
* **`Gives`** a step of rendering that has a result and leaves everything as it was.
* **`gives_renderBody`** pieces give their filled text, the values word for word.
* **`find?_of_ofList`** what is found in a library is what has been read for it.
* **`ofList_written`** templates of slots make up a library, and **`render_of_find`** is what a template of
  slots gives in any library. -/

namespace TraceDiagram

namespace Template

open Text Words

/-! ## Filling -/

/-- What is written in place of a piece. -/
def Piece.fill (value : String → Option String) : Piece → Option String
  | .text chars => some (String.ofList chars)
  | .slot n => value n.text

/-- The text of pieces with the values of variables in their slots, if all slots have one. -/
def fill (value : String → Option String) : List Piece → Option String
  | [] => some ""
  | p :: rest => (p.fill value).bind fun s => (fill value rest).map (s ++ ·)

/-- The text of a template, read from the left, with values in place of names in double braces. In a slot,
the part of its name that has been read is given. -/
def fillFrom (value : String → Option String) : Option (List Char) → List Char → Option (List Char)
  | none, [] => some []
  | none, '\x7b' :: '\x7b' :: ' ' :: cs => fillFrom value (some []) cs
  | none, c :: cs => (fillFrom value none cs).map (c :: ·)
  | some _, [] => none
  | some name, ' ' :: '\x7d' :: '\x7d' :: cs =>
    (value (String.ofList name)).bind fun v => (fillFrom value none cs).map (v.toList ++ ·)
  | some name, c :: cs => fillFrom value (some (name ++ [c])) cs

/-- A template with each name in double braces replaced by its value, if all have one. -/
def replaceSlots (value : String → Option String) (template : String) : Option String :=
  (fillFrom value none template.toList).map String.ofList

/-- Running text stays as it is. -/
theorem fillFrom_text (value : String → Option String) {chars : List Char} (hchars : '\x7b' ∉ chars)
    (rest : List Char) :
    fillFrom value none (chars ++ rest) = (fillFrom value none rest).map (chars ++ ·) := by
  induction chars with
  | nil => simp
  | cons c chars ih =>
    have hc : c ≠ '\x7b' := fun h => hchars (h ▸ List.mem_cons_self)
    rw [List.cons_append, fillFrom, ih fun h => hchars (List.mem_cons_of_mem c h), Option.map_map]
    · rfl
    · rintro cs rfl
      exact absurd rfl hc

/-- The name in a slot is read up to what closes the slot. -/
theorem fillFrom_name (value : String → Option String) {name : List Char} (hname : ' ' ∉ name)
    (before rest : List Char) :
    fillFrom value (some before) (name ++ slotEnd rest) =
      (value (String.ofList (before ++ name))).bind fun v =>
        (fillFrom value none rest).map (v.toList ++ ·) := by
  induction name generalizing before with
  | nil => rw [List.nil_append, slotEnd, fillFrom, List.append_nil]
  | cons c name ih =>
    have hc : c ≠ ' ' := fun h => hname (h ▸ List.mem_cons_self)
    rw [List.cons_append, fillFrom, ih fun h => hname (List.mem_cons_of_mem c h)]
    · rw [List.append_assoc, List.singleton_append]
    · rintro cs rfl
      exact absurd rfl hc

/-- Replacing the slots of a template fills its pieces. -/
theorem replaceSlots_written (value : String → Option String) {pieces : List Piece}
    (h : Separate pieces) : replaceSlots value (String.ofList (written pieces)) = fill value pieces := by
  have hchars : fillFrom value none (written pieces) = (fill value pieces).map String.toList := by
    induction pieces with
    | nil => rfl
    | cons p pieces ih =>
      have hmore := ih h.2.2
      rw [written, List.foldr_cons, ← written, fill]
      -- running text is passed over, and a slot ends at the first blank behind its name
      cases p with
      | text chars =>
        obtain ⟨c, cs, rfl, hcs⟩ := Piece.exists_cons_of_isPlain h.1
        rw [Piece.writtenBefore, fillFrom_text value hcs, hmore]
        cases fill value pieces <;> simp [Piece.fill]
      | slot n =>
        have hslot : fillFrom value none ((Piece.slot n).writtenBefore (written pieces)) =
            fillFrom value (some []) (n.chars ++ slotEnd (written pieces)) := rfl
        rw [hslot, fillFrom_name value (n.not_mem_chars (by decide)), hmore, List.nil_append,
          ← SlotName.text, Piece.fill]
        cases value n.text with
        | none => rfl
        | some v => cases fill value pieces <;> simp
  rw [replaceSlots, String.toList_ofList, hchars, Option.map_map]
  cases fill value pieces <;> simp

/-- Pieces are filled if each of their slots has a value. -/
theorem exists_fill {value : String → Option String} {pieces : List Piece}
    (h : ∀ n, Piece.slot n ∈ pieces → ∃ v, value n.text = some v) :
    ∃ text, fill value pieces = some text := by
  induction pieces with
  | nil => exact ⟨"", rfl⟩
  | cons p pieces ih =>
    obtain ⟨more, hmore⟩ := ih fun n hn => h n (List.mem_cons_of_mem p hn)
    obtain ⟨s, hs⟩ : ∃ s, p.fill value = some s := by
      cases p with
      | text chars => exact ⟨_, rfl⟩
      | slot n => exact h n List.mem_cons_self
    exact ⟨s ++ more, by rw [fill, hs, Option.bind_some, hmore, Option.map_some]⟩

/-! ## Steps of rendering -/

/-- The step has the given result in a state, and leaves the state as it is. -/
def Gives {α : Type} (step : Render α) (s : RenderState) (a : α) : Prop := step.run s = (.ok a, s)

section Steps

variable {α β : Type} {step : Render α} {s : RenderState} {a : α}

theorem gives_pure (a : α) (s : RenderState) : Gives (pure a) s a := rfl

theorem gives_get (s : RenderState) : Gives get s s := rfl

theorem Gives.bind (h : Gives step s a) {f : α → Render β} {b : β} (hf : Gives (f a) s b) :
    Gives (step >>= f) s b := by
  change (ExceptT.bindCont f (step.run s).1 : StateM RenderState _) (step.run s).2 = _
  rw [h]
  exact hf

theorem Gives.map (h : Gives step s a) (f : α → β) : Gives (f <$> step) s (f a) := by
  rw [map_eq_pure_bind]
  exact h.bind (gives_pure _ _)

end Steps

/-! ## Looking variables up -/

/-- A state in which only the whole template is open and has given no variable a value. -/
def RenderState.Fresh (s : RenderState) : Prop :=
  ∃ template, s.frames = [{ kind := .whole, template := template, vars := ∅, loop := none }]

variable {j : Job} {s : RenderState} {value : String → Option String}

/-- A context that has the given values as texts. -/
def Knows (context : Context) (value : String → Option String) : Prop :=
  ∀ key v, value key = some v → context.get? key = some (.text v)

/-- A name is looked up in the context. -/
theorem resolve_slot (hs : s.Fresh) {context : Context} (hknows : Knows context value) {n : SlotName}
    {v : String} (hv : value n.text = some v) : resolve s context n.text = .ok (.text v) := by
  obtain ⟨template, hframes⟩ := hs
  -- a name has no parts, so that it is a key of the context as a whole
  have hpoint : n.chars.takeWhile (· ≠ '.') = n.chars ∧ n.chars.dropWhile (· ≠ '.') = [] := by
    have hall : ∀ c ∈ n.chars, decide (c ≠ '.') = true := by
      intro c hc
      rw [decide_eq_true_eq]
      rintro rfl
      exact n.not_mem_chars (by decide) hc
    exact ⟨List.takeWhile_eq_self_iff.2 hall, List.dropWhile_eq_nil_iff.2 hall⟩
  have hfound : findIn context n.chars = some (.text v) := by
    rw [findIn, hpoint.1, hpoint.2, ← SlotName.text, hknows _ _ hv]
    rfl
  have hfind : s.find? context n.chars = some (.text v) := by
    -- the frame of the template knows no variable, and nothing is open around it
    have hframe : findInFrames n.chars s.frames = none := by
      rw [hframes]
      rfl
    rw [RenderState.find?, hframe, hfound]
    rfl
  have hbracket : n.chars.contains '[' = false := by
    rw [Bool.eq_false_iff, Ne, List.contains_iff_mem]
    exact n.not_mem_chars (by decide)
  rw [resolve, SlotName.text, String.toList_ofList, resolveUpTo, hbracket, hfind]
  rfl

theorem gives_lookUp (hs : s.Fresh) {context : Context} (hknows : Knows context value) {n : SlotName}
    {v : String} (hv : value n.text = some v) : Gives (lookUp context n.text) s (.text v) := by
  -- the one name that stands for the whole context is reserved
  have hne : n.text ≠ "__tera_context" := by
    intro h
    have hword : "__tera_context" ∈ reservedWords := by decide
    refine n.not_reserved hword ?_
    have hchars : "__tera_context".toList = n.chars := by
      rw [← h, SlotName.text, String.toList_ofList]
    exact hchars ▸ List.prefix_refl _
  refine (gives_get s).bind ?_
  rw [if_neg hne, resolve_slot hs hknows hv]
  exact gives_pure _ _

/-- A variable without filters has the value that is found for it. -/
theorem gives_finish {m : Meaning} {v : Json} (h : Gives m.value s v) (name : String) :
    Gives (Meaning.finish (.path name) false [] m).value s v := by
  have hbefore : Gives (Meaning.before (.path name) false [] m) s (some v) := h.map some
  have hfilters : Gives (applyFilters [] v) s v := gives_pure v s
  exact hbefore.bind (hfilters.bind (gives_pure v s))

/-- **Step lemma**: a piece gives what it is filled with. -/
theorem gives_render (elsewhere : Elsewhere) (hs : s.Fresh) (hknows : Knows j.context value) {p : Piece}
    {text : String} (hp : p.fill value = some text) : Gives (p.node.render j elsewhere) s text := by
  cases p with
  | text chars =>
    obtain rfl := Option.some_inj.1 hp
    exact gives_pure _ _
  | slot n =>
    have hvalue : Gives (n.expr.meaning (j.surroundings elsewhere)).value s (.text text) := by
      have hlook : Gives (Meaning.path j.context n.text).value s (.text text) :=
        gives_lookUp hs hknows hp
      exact gives_finish hlook n.text
    have hprinted : (Json.text text).printedText = text := String.ofList_toList
    have hprint : Gives (pure (Json.text text).printedText) s text := by
      rw [hprinted]
      exact gives_pure _ _
    exact hvalue.bind hprint

/-- **Run lemma**: pieces give their filled text. -/
theorem gives_renderBody (elsewhere : Elsewhere) (hs : s.Fresh) (hknows : Knows j.context value)
    {pieces : List Piece} {text : String} (hpieces : fill value pieces = some text) :
    Gives (renderBody j elsewhere (pieces.map Piece.node)) s text := by
  -- a slot changes nothing in the state, so the rest is rendered in the state that the first piece was
  induction pieces generalizing text with
  | nil =>
    obtain rfl := Option.some_inj.1 hpieces
    exact gives_pure _ _
  | cons p pieces ih =>
    simp only [fill, Option.bind_eq_some_iff, Option.map_eq_some_iff] at hpieces
    obtain ⟨first, hfirst, more, hmore, rfl⟩ := hpieces
    -- no loop is open that could end the body
    have hgoes : Gives bodyEnds s false := by
      obtain ⟨template, hframes⟩ := hs
      refine (gives_get s).bind ?_
      rw [hframes]
      exact gives_pure _ _
    have hrest : Gives (do
        let rest ← renderBody j elsewhere (pieces.map Piece.node)
        return first ++ rest) s (first ++ more) :=
      (ih hmore).bind (gives_pure _ _)
    exact (gives_render elsewhere hs hknows hfirst).bind (hgoes.bind hrest)

/-- **A template of slots gives its text.** -/
theorem run_of_pieces (hancestors : j.ancestors = []) {pieces : List Piece}
    (hfind : j.library.find? j.name = some (ofPieces pieces)) (hknows : Knows j.context value)
    {text : String} (hpieces : fill value pieces = some text) : j.run = .ok text := by
  have hnodes : j.rootNodes = pieces.map Piece.node := by
    rw [Job.rootNodes, Job.rootName, hancestors, List.getLastD_nil, hfind]
    rfl
  have hrender : Gives (renderNodes j depthLimit j.rootNodes) j.start text := by
    rw [hnodes]
    exact gives_renderBody _ ⟨j.name, rfl⟩ hknows hpieces
  rw [Job.run, hrender]

end Template

/-! ## Libraries -/

open Template (Piece ofPieces written fill)

namespace Library

/-- The library of templates of slots, given by name and pieces. -/
def ofPieceLists (ts : List (String × List Piece)) : Library where
  templates := Dict.ofList (ts.map fun t => (t.1, ofPieces t.2))

section

variable {ts : List (String × List Piece)} (hnodup : (ts.map Prod.fst).Nodup)

include hnodup

theorem entries_ofPieceLists :
    (ofPieceLists ts).templates.entries = ts.map fun t => (t.1, ofPieces t.2) := by
  refine Dict.entries_ofList ?_
  rw [List.map_map]
  exact hnodup

/-- Each template is found by its name. -/
theorem find?_ofPieceLists {name : String} {pieces : List Piece} (h : (name, pieces) ∈ ts) :
    (ofPieceLists ts).find? name = some (ofPieces pieces) := by
  refine Dict.get?_of_mem_entries ?_
  rw [entries_ofPieceLists hnodup]
  exact List.mem_map_of_mem h

/-- No template of slots inherits from another. -/
theorem ancestors_ofPieceLists (name : String) : (ofPieceLists ts).ancestors name = [] := by
  have hparent : ((ofPieceLists ts).find? name).bind (fun t => t.parent) = none := by
    cases hfind : (ofPieceLists ts).find? name with
    | none => rfl
    | some t =>
      have hmem := Dict.mem_entries_of_get? hfind
      rw [entries_ofPieceLists hnodup] at hmem
      obtain ⟨t', -, heq⟩ := List.mem_map.1 hmem
      obtain rfl := (Prod.mk.inj heq).2
      rfl
  rw [ancestors, ancestorsUpTo, hparent]

end

/-- A template that is read comes in front of the others. -/
theorem readAll_cons_of_some {name text : String} {t : Template} (h : Template.read? text = some t)
    (rest : List (String × String)) :
    readAll ((name, text) :: rest) = (readAll rest).map ((name, t) :: ·) := by
  -- the equation for all cases: to state the one for this case, the text would be read
  rw [readAll.eq_def]
  dsimp only
  rw [h]
  cases readAll rest <;> rfl

/-- When a list of templates is read, so are the first and the others. -/
theorem readAll_cons_ok {name text : String} {rest : List (String × String)} {read : List (String × Template)}
    (h : readAll ((name, text) :: rest) = .ok read) :
    ∃ t more, Template.read? text = some t ∧ readAll rest = .ok more ∧ read = (name, t) :: more := by
  cases ht : Template.read? text with
  | none =>
    rw [readAll.eq_def] at h
    dsimp only at h
    rw [ht] at h
    cases h
  | some t =>
    rw [readAll_cons_of_some ht] at h
    cases hrest : readAll rest with
    | error e =>
      rw [hrest] at h
      cases h
    | ok more =>
      rw [hrest] at h
      exact ⟨t, more, rfl, rfl, (Except.ok.inj h).symm⟩

/-- Templates keep their names when they are read. -/
theorem map_fst_readAll {texts : List (String × String)} {read : List (String × Template)}
    (h : readAll texts = .ok read) : read.map Prod.fst = texts.map Prod.fst := by
  induction texts generalizing read with
  | nil =>
    obtain rfl := Except.ok.inj h
    rfl
  | cons first rest ih =>
    obtain ⟨t, more, -, hmore, rfl⟩ := readAll_cons_ok h
    rw [List.map_cons, List.map_cons, ih hmore]

/-- What a template is read as is among what is read. -/
theorem mem_readAll {texts : List (String × String)} {read : List (String × Template)}
    (h : readAll texts = .ok read) {name text : String} (hmem : (name, text) ∈ texts) {t : Template}
    (ht : Template.read? text = some t) : (name, t) ∈ read := by
  induction texts generalizing read with
  | nil => cases hmem
  | cons first rest ih =>
    obtain ⟨t', more, ht', hmore, rfl⟩ := readAll_cons_ok h
    rcases List.mem_cons.1 hmem with rfl | hmem
    · obtain rfl := Option.some.inj (ht.symm.trans ht')
      exact List.mem_cons_self
    · exact List.mem_cons_of_mem _ (ih hmore hmem)

/-- A library holds what has been read; the checks add nothing. -/
theorem exists_readAll_of_ofList {texts : List (String × String)} {l : Library} (h : ofList texts = .ok l) :
    ∃ read, readAll texts = .ok read ∧ l = { templates := Dict.ofList read } := by
  rw [ofList] at h
  cases hread : readAll texts with
  | error e =>
    rw [hread] at h
    cases h
  | ok read =>
    rw [hread] at h
    simp only [bind, Except.bind, pure, Except.pure] at h
    split at h
    · cases h
    · split at h
      · cases h
      · exact ⟨read, rfl, (Except.ok.inj h).symm⟩

/-- **What is found in a library** under a name is what the template of that name is read as. -/
theorem find?_of_ofList {texts : List (String × String)} {l : Library} (h : ofList texts = .ok l)
    (hnodup : (texts.map Prod.fst).Nodup) {name text : String} (hmem : (name, text) ∈ texts) {t : Template}
    (ht : Template.read? text = some t) : l.find? name = some t := by
  obtain ⟨read, hread, rfl⟩ := exists_readAll_of_ofList h
  refine Dict.get?_of_mem_entries ?_
  rw [Dict.entries_ofList (by rwa [map_fst_readAll hread])]
  exact mem_readAll hread hmem ht

/-- Templates of slots are all read. -/
theorem readAll_written {ts : List (String × List Piece)} (h : ∀ t ∈ ts, Template.Separate t.2) :
    readAll (ts.map fun t => (t.1, String.ofList (written t.2))) =
      .ok (ts.map fun t => (t.1, ofPieces t.2)) := by
  induction ts with
  | nil => rfl
  | cons t ts ih =>
    have hread := Template.read?_written (h t List.mem_cons_self)
    rw [List.map_cons, readAll_cons_of_some hread, ih fun t ht => h t (List.mem_cons_of_mem _ ht)]
    rfl

/-- Checks that all succeed succeed one after the other. -/
theorem forIn_ok {α : Type} {check : α → Except LibraryError Unit} {items : List α}
    (h : ∀ a ∈ items, check a = .ok ()) :
    (forIn items PUnit.unit fun a _ => do
      check a
      pure (ForInStep.yield PUnit.unit)) = (.ok PUnit.unit : Except LibraryError PUnit) := by
  induction items with
  | nil => rfl
  | cons a items ih =>
    rw [List.forIn_cons, h a List.mem_cons_self]
    exact ih fun a ha => h a (List.mem_cons_of_mem _ ha)

/-- **Templates of slots with different names make up a library.** -/
theorem ofList_written {ts : List (String × List Piece)} (h : ∀ t ∈ ts, Template.Separate t.2)
    (hnodup : (ts.map Prod.fst).Nodup) :
    ofList (ts.map fun t => (t.1, String.ofList (written t.2))) = .ok (ofPieceLists ts) := by
  -- the checks of a library look for parents, blocks and macros, and templates of slots have none
  have hinheritance : ∀ name ∈ (ofPieceLists ts).templates.keys,
      (ofPieceLists ts).checkInheritance name = .ok () := by
    intro name _
    rw [checkInheritance, ancestors_ofPieceLists hnodup]
    rfl
  have hmacros : ∀ t ∈ (ofPieceLists ts).templates.entries,
      (ofPieceLists ts).checkMacros t.1 t.2 = .ok () := by
    intro t ht
    rw [entries_ofPieceLists hnodup] at ht
    obtain ⟨t', -, rfl⟩ := List.mem_map.1 ht
    rfl
  rw [ofList, readAll_written h]
  change (do
    forIn (ofPieceLists ts).templates.keys PUnit.unit fun name _ => do
      (ofPieceLists ts).checkInheritance name
      pure (ForInStep.yield PUnit.unit)
    forIn (ofPieceLists ts).templates.entries PUnit.unit fun (t : String × Template) _ => do
      (ofPieceLists ts).checkMacros t.1 t.2
      pure (ForInStep.yield PUnit.unit)
    return ofPieceLists ts) = _
  rw [forIn_ok hinheritance]
  change (do
    forIn (ofPieceLists ts).templates.entries PUnit.unit fun (t : String × Template) _ => do
      (ofPieceLists ts).checkMacros t.1 t.2
      pure (ForInStep.yield PUnit.unit)
    return ofPieceLists ts) = _
  rw [forIn_ok hmacros]
  rfl

/-- **A template of slots gives its text with the values of the variables in the slots**, whatever other
templates there are. -/
theorem render_of_find {l : Library} {name : String} {pieces : List Piece}
    (hfind : l.find? name = some (ofPieces pieces)) {context : Template.Context}
    {value : String → Option String} (hknows : Template.Knows context value) {text : String}
    (hfill : fill value pieces = some text) : l.render name context = .ok text := by
  have hancestors : l.ancestors name = [] := by
    rw [ancestors, ancestorsUpTo, hfind]
    rfl
  rw [render, hfind, hancestors]
  exact Template.run_of_pieces rfl hfind hknows hfill

end Library

end TraceDiagram
