import TraceDiagram.Proofs.Compiling

/-! # What a block is put together from

A block of the body is put together from up to four texts, its fragments, which are rendered in a fixed order.
The first of them that cannot be rendered keeps the whole document from being laid out.

* **`Layout.Fragment`** the fragments, and **`Layout.rendering`** what rendering one comes to.
* **`Layout.FirstFault`** the first fragment of a statement that cannot be rendered.
* **`Layout.block_cases`** the step lemma: a block is laid out of its fragments, or told by its first fault.
* **`Layout.bodyFrom_cases`** the run lemma: so is a body, by the first statement with a fault.
* **`Layout.assembles`** what that says about documents. -/

namespace TraceDiagram

/-! ## Errors in words -/

namespace Template

/-- No fault is without words. -/
theorem RenderFault.messages_ne_nil (fault : RenderFault) : fault.messages ≠ [] := by
  cases fault <;> simp [RenderFault.messages]

/-- The texts of an error: its own, and then that of each cause. -/
def RenderError.texts (e : RenderError) : List String := e.place.toList ++ e.fault.messages

/-- An error has a text of its own. -/
theorem RenderError.exists_texts (e : RenderError) : ∃ own causes, e.texts = own :: causes :=
  List.exists_cons_of_ne_nil (List.append_ne_nil_of_right_ne_nil _ e.fault.messages_ne_nil)

/-- Texts with a separator in between are the first and the others, each behind a separator. -/
theorem intercalate_cons (sep own : String) (causes : List String) :
    sep.intercalate (own :: causes) = own ++ String.join (causes.map (sep ++ ·)) := by
  induction causes generalizing own with
  | nil => simp
  | cons cause causes ih =>
    rw [String.intercalate_cons_cons, ih, List.map_cons, String.join_cons]
    simp only [String.append_assoc]

/-- **An error is told in its own words**, and each cause follows behind a colon. -/
theorem RenderError.message_of_texts {e : RenderError} {own : String} {causes : List String}
    (h : e.texts = own :: causes) : e.message = own ++ String.join (causes.map (": " ++ ·)) := by
  rw [RenderError.message, ← texts, h, intercalate_cons]

end Template

open Template (RenderError)

namespace Layout

/-! ## Fragments -/

/-- The texts that a block is put together from. -/
inductive Fragment where
  /-- The heading in front of a statement with a bookmark. -/
  | heading
  /-- The list of parameters, which is part of the text. -/
  | params
  /-- The text of the statement. -/
  | text
  /-- The remark below it. -/
  | remark
  deriving DecidableEq, Repr

/-- The fragments that are rendered before one. -/
def Fragment.earlier : Fragment → List Fragment
  | .heading => []
  | .params => [.heading]
  | .text => [.heading, .params]
  | .remark => [.heading, .params, .text]

variable (l : Layout) (s : Statement)

/-- What rendering a fragment of a statement comes to, if the statement has the fragment. There is no text
without the list of parameters that belongs into it. -/
def rendering : Fragment → Option (Except RenderError String)
  | .heading => (s.bookmark?.filter l.format.bookmarks.contains).map l.wording.bookmark
  | .params => s.params.map l.wording.params
  | .text =>
    match s.params with
    | none => some (l.wording.renderTexts s.kind.templateName s.attributes)
    | some ps =>
      match l.wording.params ps with
      | .error _ => none
      | .ok list => some (l.wording.renderTexts s.kind.templateName (s.attributes.insert "params" list))
  | .remark => s.remark.map l.wording.remark

/-- A fragment of a statement cannot be rendered, for the given reason. -/
def Faulty (f : Fragment) (e : RenderError) : Prop := l.rendering s f = some (.error e)

/-- All fragments of a statement can be rendered. -/
def Sound : Prop := ∀ f e, ¬l.Faulty s f e

/-- A fragment is the first of a statement that cannot be rendered. -/
def FirstFault (f : Fragment) (e : RenderError) : Prop :=
  l.Faulty s f e ∧ ∀ g ∈ f.earlier, ∀ e', ¬l.Faulty s g e'

/-- The line for a fragment: its text behind the indentation, or nothing if there is none. -/
def lineOf (f : Fragment) : String :=
  match l.rendering s f with
  | some (.ok text) => l.indented text
  | _ => ""

/-- The block of a statement: the line of the heading, those of the text and the remark, and an empty one. -/
def blockText : String :=
  l.lineOf s .heading ++ l.lineOf s .text ++ l.lineOf s .remark ++ "\n"

variable {l s} {f g : Fragment} {e e' : RenderError}

/-- Of two fragments one is rendered before the other. -/
theorem Fragment.mem_earlier_or (f g : Fragment) : f ∈ g.earlier ∨ f = g ∨ g ∈ f.earlier := by
  cases f <;> cases g <;> decide

/-- There is one first fault. -/
theorem FirstFault.unique (h : l.FirstFault s f e) (h' : l.FirstFault s g e') : e = e' := by
  rcases f.mem_earlier_or g with hmem | rfl | hmem
  · exact absurd h.1 (h'.2 f hmem e)
  · exact Except.error.inj (Option.some.inj (h.1.symm.trans h'.1))
  · exact absurd h'.1 (h.2 g hmem e')

/-! ## One block -/

section OneBlock

variable (l s)

/-- The line for a fragment, unless the fragment cannot be rendered. -/
def line (f : Fragment) : Except RenderError String :=
  match l.rendering s f with
  | some r => l.indented <$> r
  | none => .ok ""

/-- The line for a fragment is laid out exactly if the fragment can be rendered. -/
theorem line_cases (f : Fragment) : (∃ e, l.Faulty s f e ∧ l.line s f = .error e) ∨
    ((∀ e, ¬l.Faulty s f e) ∧ l.line s f = .ok (l.lineOf s f)) := by
  simp only [Faulty, line, lineOf]
  cases l.rendering s f with
  | none => exact .inr ⟨nofun, rfl⟩
  | some rendered =>
    cases rendered with
    | error e => exact .inl ⟨e, rfl, rfl⟩
    | ok text => exact .inr ⟨nofun, rfl⟩

/-- The heading of a statement is the line of that fragment. -/
theorem heading_eq_line : l.heading s = l.line s .heading := by
  rw [heading, line, rendering]
  cases s.bookmark? with
  | none => rfl
  | some value => cases h : l.format.bookmarks.contains value <;> simp [h, Option.filter]

/-- The remark below a statement is the line of that fragment. -/
theorem remarkLine_eq_line : l.remarkLine s = l.line s .remark := by
  rw [remarkLine, line, rendering]
  cases s.remark <;> rfl

/-- The text of a statement is the line of that fragment, once the parameters are rendered. -/
theorem indented_statement_eq : l.indented <$> l.wording.statement s =
    (l.line s .params).bind fun _ => l.line s .text := by
  rw [Wording.statement, Wording.bindings, line, line, rendering, rendering]
  cases s.params with
  | none => rfl
  | some ps =>
    cases h : l.wording.params ps with
    | error e => simp [h, bind, Except.bind, Functor.map, Except.map]
    | ok list => simp [h, bind, Except.bind, Functor.map, Except.map, pure, Except.pure]

/-- A block is put together from the lines of its fragments, in order. -/
theorem block_eq_lines : l.block s =
    (l.line s .heading).bind fun heading => (l.line s .params).bind fun _ =>
      (l.line s .text).bind fun text => (l.line s .remark).map fun remark =>
        heading ++ text ++ remark ++ "\n" := by
  -- what becomes of the text is the same, whether the parameters are told apart from it or not
  have htext (k : String → Except RenderError String) :
      ((l.line s .params).bind fun _ => (l.line s .text).bind k) =
        (l.wording.statement s).bind fun text => k (l.indented text) := by
    have hassoc : ((l.line s .params).bind fun _ => (l.line s .text).bind k) =
        ((l.line s .params).bind fun _ => l.line s .text).bind k := by
      cases l.line s .params <;> rfl
    rw [hassoc, ← l.indented_statement_eq s]
    cases l.wording.statement s <;> rfl
  simp only [block, heading_eq_line, remarkLine_eq_line, htext]
  cases l.line s .heading with
  | error e => rfl
  | ok heading =>
    cases l.wording.statement s with
    | error e => rfl
    | ok text => cases l.line s .remark <;> rfl

/-- **Step lemma**: a block is laid out of its fragments, unless one of them cannot be rendered; then the
first such fragment decides. -/
theorem block_cases : (∃ f e, l.FirstFault s f e ∧ l.block s = .error e) ∨
    (l.Sound s ∧ l.block s = .ok (l.blockText s)) := by
  rw [block_eq_lines]
  -- in the order of rendering: each fragment is looked at once all earlier ones can be rendered
  obtain ⟨e, hfaulty, hline⟩ | ⟨hheading, hline⟩ := l.line_cases s .heading
  · exact .inl ⟨.heading, e, ⟨hfaulty, by simp [Fragment.earlier]⟩, by rw [hline]; rfl⟩
  rw [hline]
  obtain ⟨e, hfaulty, hline⟩ | ⟨hparams, hline⟩ := l.line_cases s .params
  · exact .inl ⟨.params, e, ⟨hfaulty, by simpa [Fragment.earlier] using hheading⟩, by rw [hline]; rfl⟩
  rw [hline]
  obtain ⟨e, hfaulty, hline⟩ | ⟨htext, hline⟩ := l.line_cases s .text
  · exact .inl ⟨.text, e, ⟨hfaulty, by simpa [Fragment.earlier] using ⟨hheading, hparams⟩⟩, by
      rw [hline]; rfl⟩
  rw [hline]
  obtain ⟨e, hfaulty, hline⟩ | ⟨hremark, hline⟩ := l.line_cases s .remark
  · exact .inl ⟨.remark, e, ⟨hfaulty, by simpa [Fragment.earlier] using ⟨hheading, hparams, htext⟩⟩, by
      rw [hline]; rfl⟩
  rw [hline]
  refine .inr ⟨fun f => ?_, rfl⟩
  cases f <;> assumption

end OneBlock

/-- The block of a statement is laid out if all of its fragments can be rendered. -/
theorem block_of_sound (h : l.Sound s) : l.block s = .ok (l.blockText s) := by
  obtain ⟨f, e, hfault, -⟩ | ⟨-, hblock⟩ := l.block_cases s
  · exact absurd hfault.1 (h f e)
  · exact hblock

/-! ## Bodies -/

/-- A fragment is the first among those of some statements, in order, that cannot be rendered. -/
structure FirstFaultAt (l : Layout) (statements : List Statement) (index : Nat) (s : Statement)
    (f : Fragment) (e : RenderError) : Prop where
  /-- It belongs to the statement in the given place. -/
  here : statements[index]? = some s
  /-- The statements before that one can be rendered. -/
  before : ∀ earlier ∈ statements.take index, l.Sound earlier
  /-- Of the statement, it is the first. -/
  first : l.FirstFault s f e

/-- The failure for a statement with a fragment that cannot be rendered. It has the template of the statement,
whichever the fragment is. -/
def failureAt (index : Nat) (s : Statement) (e : RenderError) : Failure :=
  .statement index s.kind.templateName e.message

variable {statements : List Statement} {index : Nat}

theorem FirstFaultAt.head (h : l.FirstFault s f e) (rest : List Statement) :
    l.FirstFaultAt (s :: rest) 0 s f e :=
  ⟨rfl, by simp, h⟩

theorem FirstFaultAt.tail {first : Statement} (hfirst : l.Sound first)
    (h : l.FirstFaultAt statements index s f e) :
    l.FirstFaultAt (first :: statements) (index + 1) s f e := by
  refine ⟨h.here, fun earlier hearlier => ?_, h.first⟩
  rw [List.take_succ_cons, List.mem_cons] at hearlier
  rcases hearlier with rfl | hearlier
  · exact hfirst
  · exact h.before earlier hearlier

/-- Where the fault is depends on no statement that comes later. -/
theorem FirstFaultAt.of_take {more : List Statement} (h : l.FirstFaultAt statements index s f e)
    (htake : more.take (index + 1) = statements.take (index + 1)) :
    l.FirstFaultAt more index s f e := by
  have hbefore : more.take index = statements.take index := by
    simpa [List.take_take] using congrArg (List.take index) htake
  refine ⟨?_, by rw [hbefore]; exact h.before, h.first⟩
  rw [← List.getElem?_take_of_lt index.lt_succ_self, htake,
    List.getElem?_take_of_lt index.lt_succ_self, h.here]

variable (l statements)

/-- **Run lemma**: a body is laid out of the blocks of its statements, unless a fragment of one cannot be
rendered; then the first such statement decides. -/
theorem bodyFrom_cases (start : Nat) :
    (∃ index s f e, l.FirstFaultAt statements index s f e ∧
      l.bodyFrom start statements = .error (failureAt (start + index) s e)) ∨
    ((∀ s ∈ statements, l.Sound s) ∧
      l.bodyFrom start statements = .ok (String.join (statements.map l.blockText))) := by
  induction statements generalizing start with
  | nil => exact .inr ⟨by simp, by rw [bodyFrom, List.map_nil, String.join_nil]⟩
  | cons first rest ih =>
    rw [bodyFrom]
    -- the first fault is one of the first statement, or else that of the others, one place further
    obtain ⟨f, e, hfault, hblock⟩ | ⟨hsound, hblock⟩ := l.block_cases first
    · exact .inl ⟨0, first, f, e, .head hfault rest, by rw [hblock]; rfl⟩
    obtain ⟨index, s, f, e, hfault, hrest⟩ | ⟨hsounds, hrest⟩ := ih (start + 1)
    · refine .inl ⟨index + 1, s, f, e, hfault.tail hsound, ?_⟩
      rw [hblock, hrest, Nat.add_assoc, Nat.add_comm 1]
    · refine .inr ⟨List.forall_mem_cons.2 ⟨hsound, hsounds⟩, ?_⟩
      rw [hblock, hrest, List.map_cons, String.join_cons]

/-! ## Documents -/

variable (t u : ParsedTrace)

/-- The same of a whole document. -/
theorem document_eq_cases :
    (∃ index s f e, l.FirstFaultAt t.statements index s f e ∧
      l.document t = .error (failureAt index s e)) ∨
    ((∀ s ∈ t.statements, l.Sound s) ∧
      l.document t = .ok (l.header t ++ String.join (t.statements.map l.blockText) ++ footer)) := by
  rw [document, body]
  obtain ⟨index, s, f, e, hfault, hbody⟩ | ⟨hsound, hbody⟩ := l.bodyFrom_cases t.statements 0
  · exact .inl ⟨index, s, f, e, hfault, by rw [hbody, Nat.zero_add]⟩
  · exact .inr ⟨hsound, by rw [hbody]⟩

variable {l statements t u} {index' : Nat} {s' : Statement}

/-- Statements with a fault are not all sound. -/
theorem FirstFaultAt.not_forall_sound (h : l.FirstFaultAt statements index s f e) :
    ¬∀ s ∈ statements, l.Sound s :=
  fun hsound => hsound s (List.mem_of_getElem? h.here) f e h.first.1

/-- No statement before the first fault is another first fault. -/
theorem FirstFaultAt.le (h : l.FirstFaultAt statements index s f e)
    (h' : l.FirstFaultAt statements index' s' g e') : index ≤ index' := by
  by_contra hlt
  have hmem : s' ∈ statements.take index := by
    rw [List.mem_iff_getElem?]
    exact ⟨index', by rw [List.getElem?_take_of_lt (Nat.lt_of_not_le hlt), h'.here]⟩
  exact h.before s' hmem g e' h'.first.1

/-- The first fault comes to one failure. -/
theorem FirstFaultAt.failureAt_eq (h : l.FirstFaultAt statements index s f e)
    (h' : l.FirstFaultAt statements index' s' g e') : failureAt index s e = failureAt index' s' e' := by
  obtain rfl : index = index' := Nat.le_antisymm (h.le h') (h'.le h)
  obtain rfl : s = s' := Option.some.inj (h.here.symm.trans h'.here)
  rw [h.first.unique h'.first]

/-- The first fault is what keeps a document from being laid out. -/
theorem FirstFaultAt.document_eq (h : l.FirstFaultAt t.statements index s f e) :
    l.document t = .error (failureAt index s e) := by
  obtain ⟨index', s', f', e', hfault, hdocument⟩ | ⟨hsound, -⟩ := l.document_eq_cases t
  · rw [hdocument, h.failureAt_eq hfault]
  · exact absurd hsound h.not_forall_sound

/-- A document whose statements are sound is laid out of their blocks. -/
theorem document_of_sound (h : ∀ s ∈ t.statements, l.Sound s) :
    l.document t = .ok (l.header t ++ String.join (t.statements.map l.blockText) ++ footer) := by
  obtain ⟨index, s, f, e, hfault, -⟩ | ⟨-, hdocument⟩ := l.document_eq_cases t
  · exact absurd h hfault.not_forall_sound
  · exact hdocument

/-- How a document is put together, and what keeps it from being. -/
structure Assembles (l : Layout) (t : ParsedTrace) : Prop where
  /-- There is a failure if and only if a fragment of a statement cannot be rendered. -/
  fails_iff : (∃ failure, l.document t = .error failure) ↔ ∃ s ∈ t.statements, ∃ f e, l.Faulty s f e
  /-- The failure is that of the first such statement. It has its place, the template of its kind, and the words
  for its first such fragment: those of the error and, each behind a colon, those of its causes. -/
  error_iff : ∀ failure, l.document t = .error failure ↔
    ∃ index s f e own causes, l.FirstFaultAt t.statements index s f e ∧ e.texts = own :: causes ∧
      failure = .statement index s.kind.templateName (own ++ String.join (causes.map (": " ++ ·)))
  /-- Without failure the body is one block after the other, each laid out of its own statement. -/
  text_iff : ∀ text, l.document t = .ok text ↔ (∀ s ∈ t.statements, l.Sound s) ∧
    text = l.header t ++ String.join (t.statements.map l.blockText) ++ footer
  /-- What comes after the first such statement does not matter. -/
  rest_irrelevant : ∀ index s f e, l.FirstFaultAt t.statements index s f e → ∀ u : ParsedTrace,
    u.statements.take (index + 1) = t.statements.take (index + 1) → l.document u = l.document t

/-- **A document is put together from its fragments in order, and the first that cannot be rendered is told.** -/
theorem assembles (l : Layout) (t : ParsedTrace) : l.Assembles t where
  fails_iff := by
    constructor
    · rintro ⟨failure, h⟩
      obtain ⟨index, s, f, e, hfault, -⟩ | ⟨-, hdocument⟩ := l.document_eq_cases t
      · exact ⟨s, List.mem_of_getElem? hfault.here, f, e, hfault.first.1⟩
      · simp [hdocument] at h
    · rintro ⟨s, hs, f, e, hfaulty⟩
      obtain ⟨index, s', f', e', -, hdocument⟩ | ⟨hsound, -⟩ := l.document_eq_cases t
      · exact ⟨_, hdocument⟩
      · exact absurd hfaulty (hsound s hs f e)
  error_iff failure := by
    constructor
    · intro h
      obtain ⟨index, s, f, e, hfault, hdocument⟩ | ⟨-, hdocument⟩ := l.document_eq_cases t
      · obtain ⟨own, causes, htexts⟩ := e.exists_texts
        refine ⟨index, s, f, e, own, causes, hfault, htexts, ?_⟩
        rw [← RenderError.message_of_texts htexts]
        exact Except.error.inj (h.symm.trans hdocument)
      · simp [hdocument] at h
    · rintro ⟨index, s, f, e, own, causes, hfault, htexts, rfl⟩
      rw [hfault.document_eq, failureAt, RenderError.message_of_texts htexts]
  text_iff text := by
    constructor
    · intro h
      obtain ⟨index, s, f, e, -, hdocument⟩ | ⟨hsound, hdocument⟩ := l.document_eq_cases t
      · simp [hdocument] at h
      · exact ⟨hsound, Except.ok.inj (h.symm.trans hdocument)⟩
    · rintro ⟨hsound, rfl⟩
      exact document_of_sound hsound
  rest_irrelevant index s f e hfault u htake := by
    rw [hfault.document_eq, (hfault.of_take htake).document_eq]

end Layout

end TraceDiagram
