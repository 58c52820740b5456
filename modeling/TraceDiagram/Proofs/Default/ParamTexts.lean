import TraceDiagram.Proofs.Default.Wording

/-! # Reading parameters off their texts

The default template puts an attribute and its value in quotes. A text in quotes may hold anything but quotes,
also what stands between parameters or around them, and can still be read back.

* **`Wording.has_param`** a wording has the default template for one parameter if its configuration has it.
* **`Param.QuoteFree`** a parameter without quotes.
* **`paramText_append_inj`** a parameter and what follows it are read off the text of both.
* **`paramsText_injective`** so is a whole list of parameters.
* **`params_faithful`** with the default template for one parameter, the text of a list of parameters tells the
  list. -/

namespace TraceDiagram

open DefaultWording
open Template (written)

/-! ## The template -/

theorem Config.Templates.nodup_names (t : Config.Templates) : (t.toList.map Prod.fst).Nodup := by
  have hnames : t.toList.map Prod.fst = DefaultWording.templates.map Prod.fst := rfl
  rw [hnames]
  exact nodup_templates

/-- Whatever the other templates of a configuration are, the one for a parameter is read as its pieces. -/
theorem Wording.has_param {t : Config.Templates} {w : Wording} (hw : Wording.ofTemplates t = .ok w)
    (hparam : t.param = ({} : Config.Templates).param) : w.Has "param" paramPieces := by
  cases hl : Library.ofList t.toList with
  | error e =>
    rw [Wording.ofTemplates, hl] at hw
    cases hw
  | ok l =>
    rw [Wording.ofTemplates, hl] at hw
    obtain rfl := Except.ok.inj hw
    have htext : ("param", String.ofList (written paramPieces)) ∈ t.toList := by
      have hdefault : ({} : Config.Templates).param = String.ofList (written paramPieces) := by decide +kernel
      rw [← hdefault, ← hparam]
      simp [Config.Templates.toList]
    have hseparate : Template.Separate paramPieces :=
      separate_templates ("param", paramPieces) (by simp [templates])
    exact Library.find?_of_ofList hl t.nodup_names htext (Template.read?_written hseparate)

/-! ## Reading back -/

/-- Neither the attribute nor its value has quotes. -/
structure Param.QuoteFree (p : Param) : Prop where
  /-- The attribute has none. -/
  name : '"' ∉ p.name.toList
  /-- The value has none. -/
  value : '"' ∉ p.value.toList

instance (p : Param) : Decidable p.QuoteFree :=
  decidable_of_iff ('"' ∉ p.name.toList ∧ '"' ∉ p.value.toList) ⟨fun h => ⟨h.1, h.2⟩, fun h => ⟨h.1, h.2⟩⟩

theorem toList_paramText_append (p : Param) (rest : List Char) : (paramText p).toList ++ rest =
    '"' :: (p.name.toList ++ '"' :: (" = \"".toList ++ (p.value.toList ++ '"' :: rest))) := by
  simp [paramText]

/-- **Step lemma**: a parameter and what follows it are read off the text of both. -/
theorem paramText_append_inj {p q : Param} (hp : p.QuoteFree) (hq : q.QuoteFree) {rest after : List Char}
    (h : (paramText p).toList ++ rest = (paramText q).toList ++ after) : p = q ∧ rest = after := by
  rw [toList_paramText_append, toList_paramText_append, List.cons_inj_right] at h
  -- the second quote of either text is the one behind the attribute, and the fourth the one behind the value
  obtain ⟨hname, h⟩ := Text.cut_unique hp.name hq.name h
  obtain ⟨hvalue, hrest⟩ := Text.cut_unique hp.value hq.value (List.append_cancel_left h)
  refine ⟨?_, hrest⟩
  cases p
  cases q
  exact congrArg₂ Param.mk (String.toList_inj.1 hname) (String.toList_inj.1 hvalue)

/-- What follows the first of some parameters: the others, each behind a comma, and the closing parenthesis. -/
def paramsRest : List Param → List Char
  | [] => [')']
  | p :: ps => ',' :: ((paramText p).toList ++ paramsRest ps)

theorem join_paramTexts (p : Param) (ps : List Param) :
    Text.join [','] ((p :: ps).map fun p => (paramText p).toList) ++ [')'] =
      (paramText p).toList ++ paramsRest ps := by
  induction ps generalizing p with
  | nil => rfl
  | cons q ps ih =>
    calc Text.join [','] ((p :: q :: ps).map fun p => (paramText p).toList) ++ [')']
      _ = (paramText p).toList ++
          ',' :: (Text.join [','] ((q :: ps).map fun p => (paramText p).toList) ++ [')']) := by
        rw [List.map_cons, List.map_cons, Text.join_cons_cons, List.append_assoc]
        rfl
      _ = (paramText p).toList ++ paramsRest (q :: ps) := by
        rw [ih q]
        rfl

theorem toList_paramsText_cons (p : Param) (ps : List Param) :
    (paramsText (p :: ps)).toList = '(' :: ((paramText p).toList ++ paramsRest ps) := by
  have htexts : ((p :: ps).map paramText).map String.toList =
      (p :: ps).map fun p => (paramText p).toList := by
    rw [List.map_map]
    rfl
  rw [← join_paramTexts, ← htexts]
  simp [paramsText, Text.joinStrings]

/-- **Run lemma**: all parameters behind the first are read off what follows it. -/
theorem paramsRest_injective {ps qs : List Param} (hps : ∀ p ∈ ps, p.QuoteFree)
    (hqs : ∀ q ∈ qs, q.QuoteFree) (h : paramsRest ps = paramsRest qs) : ps = qs := by
  induction ps generalizing qs with
  | nil =>
    -- a parenthesis closes one list where a comma goes on in the other
    cases qs with
    | nil => rfl
    | cons q qs => simp [paramsRest] at h
  | cons p ps ih =>
    cases qs with
    | nil => simp [paramsRest] at h
    | cons q qs =>
      rw [List.forall_mem_cons] at hps hqs
      rw [paramsRest, paramsRest, List.cons_inj_right] at h
      obtain ⟨rfl, hrest⟩ := paramText_append_inj hps.1 hqs.1 h
      rw [ih hps.2 hqs.2 hrest]

/-- No parameters, and only these, have no text. -/
theorem paramsText_eq_empty_iff (ps : List Param) : paramsText ps = "" ↔ ps = [] := by
  cases ps with
  | nil => simp [paramsText]
  | cons p ps =>
    refine iff_of_false (fun h => ?_) (List.cons_ne_nil p ps)
    have hchars := congrArg String.toList h
    rw [toList_paramsText_cons] at hchars
    exact List.cons_ne_nil _ _ hchars

/-- A list of parameters is read off its text. -/
theorem paramsText_injective {ps qs : List Param} (hps : ∀ p ∈ ps, p.QuoteFree)
    (hqs : ∀ q ∈ qs, q.QuoteFree) (h : paramsText ps = paramsText qs) : ps = qs := by
  cases ps with
  | nil => exact ((paramsText_eq_empty_iff qs).1 h.symm).symm
  | cons p ps =>
    cases qs with
    | nil => exact (paramsText_eq_empty_iff (p :: ps)).1 h
    | cons q qs =>
      have hchars := congrArg String.toList h
      rw [toList_paramsText_cons, toList_paramsText_cons, List.cons_inj_right] at hchars
      -- with a comma in place of the opening parenthesis, either text is what could follow another parameter
      exact paramsRest_injective hps hqs (congrArg (',' :: ·) hchars)

/-- Quotes in a value can make one parameter look like two. -/
example : paramsText [⟨"a", "1\",\"b\" = \"2"⟩] = paramsText [⟨"a", "1"⟩, ⟨"b", "2"⟩] := by decide +kernel

/-! ## Every wording with the template -/

/-- **The text of a list of parameters tells the list.** With the default template for one parameter, every list
is given a text; only the empty one is given the empty text; and lists without quotes that are given the same
text are the same, with the same parameters in the same order. -/
theorem params_faithful {t : Config.Templates} {w : Wording} (hw : Wording.ofTemplates t = .ok w)
    (hparam : t.param = ({} : Config.Templates).param) :
    (∀ ps, ∃ text, w.params ps = .ok text) ∧
    (∀ ps, w.params ps = .ok "" ↔ ps = []) ∧
    ∀ ps qs : List Param, (∀ p ∈ ps, p.QuoteFree) → (∀ q ∈ qs, q.QuoteFree) →
      w.params ps = w.params qs → ps = qs := by
  have hparams := (Wording.has_param hw hparam).params
  refine ⟨fun ps => ⟨_, hparams ps⟩, fun ps => ?_, fun ps qs hps hqs h => ?_⟩
  · rw [hparams, Except.ok.injEq, paramsText_eq_empty_iff]
  · rw [hparams, hparams, Except.ok.injEq] at h
    exact paramsText_injective hps hqs h

/-- Of two lists, one with a value that looks like the end of the other. -/
theorem params_faithful_default :
    (∃ text, defaultWording.params [⟨"a", "f(1)"⟩, ⟨"b = ", ", c"⟩] = .ok text) ∧
    defaultWording.params [⟨"a", "f(1)"⟩, ⟨"b = ", ", c"⟩] ≠ .ok "" ∧
    defaultWording.params [⟨"a", "f(1)"⟩, ⟨"b = ", ", c"⟩] ≠ defaultWording.params [⟨"a", "f(1),b = , c)"⟩] := by
  obtain ⟨hgiven, hempty, hinjective⟩ := params_faithful ofTemplates_default rfl
  refine ⟨hgiven _, fun h => ?_, fun h => ?_⟩
  · exact absurd ((hempty _).1 h) (by decide)
  · exact absurd (hinjective _ _ (by decide +kernel) (by decide +kernel) h) (by decide)

end TraceDiagram
