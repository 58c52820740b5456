import TraceDiagram.Proofs.Attributes
import TraceDiagram.Proofs.ExecutingEntity
import TraceDiagram.Proofs.Headings
import TraceDiagram.Proofs.SilentLines

/-! # Which texts are looked for among the bookmarks

The name of a message, of a method or of a timer is looked for as a pattern finds it; all else that is looked for
is the body of a line, trimmed. So white space is looked for only if a pattern finds it, and the default patterns,
which find words, never do.

* **`BodyPatterns.FindsBookmark`** a pattern finds the text in a body.
* **`Statement.Made.bookmark_cases`** the step lemma: a pattern has found the text, or it is the body trimmed;
  **`TraceReader.bookmark_after`** so it is for all statements of a trace.
* **`BodyPatterns.FindsVisible`** patterns that never find white space for a name; **`findsVisible_default`** the
  default ones are such. -/

namespace TraceDiagram

/-! ## Blank texts -/

/-- A text is empty or made of white space. -/
def IsBlankText (s : String) : Prop := ∀ c ∈ s.toList, Text.isBlank c = true

instance (s : String) : Decidable (IsBlankText s) := List.decidableBAll (Text.isBlank · = true) s.toList

/-- Nothing is left of a blank text that is trimmed. -/
theorem IsBlankText.trim_eq {s : String} (h : IsBlankText s) : Text.trim s = "" := by
  rw [Text.trim, Text.trimChars_of_blank h]

/-- A trimmed text that is blank is empty. -/
theorem IsBlankText.eq_empty_of_trim {s : String} (h : IsBlankText (Text.trim s)) : Text.trim s = "" := by
  rw [IsBlankText, Text.trim, String.toList_ofList] at h
  rw [Text.trim, Text.trimChars_eq_nil_of_blank h]

/-! ## Found texts -/

namespace BodyPatterns

/-- The pattern that finds what is looked for among the bookmarks, for the kinds that have one: that for its
groups, or that for timers. -/
def bookmarkPattern? (patterns : BodyPatterns) (body : String) : StatementKind → Option Pattern
  | .startTimer | .stopTimer | .expiredTimer => some patterns.timer
  | kind => patterns.groupPattern? body kind

/-- The pattern of a kind finds a text in a body, under the name of the attribute that is looked for among the
bookmarks. -/
def FindsBookmark (patterns : BodyPatterns) (body : String) (kind : StatementKind) (value : String) : Prop :=
  ∃ p key c, patterns.bookmarkPattern? body kind = some p ∧ kind.bookmarkKey? = some key ∧
    p.captures body.toList = some c ∧ c.get? key = some value

variable {patterns : BodyPatterns} {body value key : String} {kind : StatementKind}

/-- What a group gives was found, unless it is the empty text that stands for a group that took no part. -/
theorem findsBookmark_of_groupAttributes (hfits : patterns.Fits body kind)
    (hsame : patterns.bookmarkPattern? body kind = patterns.groupPattern? body kind)
    (hkey : kind.bookmarkKey? = some key) (hvalue : (patterns.groupAttributes body kind).lookup key = some value)
    (hne : value ≠ "") : patterns.FindsBookmark body kind value := by
  cases hp : patterns.groupPattern? body kind with
  | none => simp [groupAttributes, hp] at hvalue
  | some p =>
    obtain ⟨c, hc⟩ := hfits p hp
    rw [lookup_groupAttributes hp hc, value?_captured, Option.ite_none_right_eq_some] at hvalue
    obtain ⟨-, hfound⟩ := hvalue
    refine ⟨p, key, c, hsame.trans hp, hkey, hc, ?_⟩
    cases hget : c.get? key with
    | none => simp [hget, hne.symm] at hfound
    | some found => simpa [hget] using hfound

end BodyPatterns

section Made

variable {patterns : BodyPatterns} {fields : LineFields} {stack : CallStack} {s : Statement} {value : String}

/-- **Step lemma**: what is looked for among the bookmarks was found by a pattern, or it is the body without white
space at its ends. -/
theorem Statement.Made.bookmark_cases (h : s.Made patterns fields stack) (hvalue : s.bookmark? = some value) :
    value = Text.trim fields.body ∨ patterns.FindsBookmark fields.body s.kind value := by
  obtain ⟨key, hkey, hvalue, hne⟩ := bookmark?_eq_some_iff.1 hvalue
  have hfits := h.fits
  rw [h.values] at hvalue
  -- the key is that of the kind, so that the settings of the kind say whether it is one of them
  cases hkind : s.kind with
  | messageReceive | messageSend =>
    rw [hkind] at hkey hvalue hfits
    obtain rfl := Option.some.inj hkey
    exact .inr (BodyPatterns.findsBookmark_of_groupAttributes hfits rfl rfl hvalue hne)
  | invoke =>
    rw [hkind] at hkey hvalue hfits
    obtain rfl := Option.some.inj hkey
    -- a call sets whom it calls and who calls, but never the name of the method
    have hsettings : (Handler.settings patterns fields stack .invoke).lookup "method" = none := by
      rw [Handler.settings, lookup_cons_ite, if_neg (by decide)]
      split
      · rfl
      · cases (patterns.groupAttributes fields.body .invoke).lookup "method" <;> rfl
    rw [List.lookup_append, hsettings, Option.none_or] at hvalue
    exact .inr (BodyPatterns.findsBookmark_of_groupAttributes hfits rfl rfl hvalue hne)
  | methodReturn | create | delete => simp [hkind, StatementKind.bookmarkKey?] at hkey
  | startTimer | stopTimer | expiredTimer =>
    rw [hkind] at hkey hvalue
    obtain rfl := Option.some.inj hkey
    have hname : ((patterns.timer.captures fields.body.toList).bind (·.get? "timer")).getD
        (Text.trim fields.body) = value := Option.some.inj hvalue
    cases hfound : (patterns.timer.captures fields.body.toList).bind (·.get? "timer") with
    | none =>
      rw [hfound] at hname
      exact .inl hname.symm
    | some found =>
      rw [hfound] at hname
      obtain ⟨c, hc, hget⟩ := Option.bind_eq_some_iff.1 hfound
      exact .inr ⟨patterns.timer, "timer", c, rfl, rfl, hc, hname ▸ hget⟩
  | stateChange | allocate | free | beginAction | endAction | genericAction =>
    rw [hkind] at hkey hvalue
    obtain rfl := Option.some.inj hkey
    exact .inl (Option.some.inj hvalue).symm

end Made

/-- Completing a statement leaves alone what is looked for among the bookmarks. -/
theorem bookmark?_complete (fields : LineFields) (remark : Remark) (s : Statement) :
    (TraceReader.complete fields remark s).bookmark? = s.bookmark? := by
  have hkind : (TraceReader.complete fields remark s).kind = s.kind := rfl
  have hvalue : ∀ key, s.kind.bookmarkKey? = some key →
      (TraceReader.complete fields remark s).value? key = s.value? key := by
    intro key hkey
    have hline : (lineAttributes fields remark).lookup key = none := by
      cases hs : s.kind <;> rw [hs] at hkey <;> cases hkey <;> rfl
    rw [value?_complete, hline, Option.or_none]
  rw [Statement.bookmark?, Statement.bookmark?, hkind]
  cases hkey : s.kind.bookmarkKey? with
  | none => rfl
  | some key => simp only [Option.bind_some, hvalue key hkey]

namespace TraceReader

variable {r : TraceReader} (hhandlers : r.rules.handlers = builtinHandlers)

include hhandlers

/-- The same of the statement that a line adds. -/
theorem bookmark_completed {stack : CallStack} {line : String} {s : Statement}
    (hs : r.completed stack line = some s) : ∃ fields, r.fieldsOn line = some fields ∧
      ∀ value, s.bookmark? = some value →
        value = Text.trim fields.body ∨ r.rules.patterns.FindsBookmark fields.body s.kind value := by
  obtain ⟨fields, remark, built, hfields, hbuilt, rfl⟩ := r.completed_eq_some hs
  rw [r.construction_of_fieldsOn hfields] at hbuilt
  have hmade : built.Made r.rules.patterns fields stack :=
    made_of_builtin (ExtractionRules.get?_handlerName hhandlers fields.category) _ _ _ built hbuilt
  refine ⟨fields, hfields, fun value hvalue => ?_⟩
  rw [bookmark?_complete] at hvalue
  exact hmade.bookmark_cases hvalue

/-- **Run lemma**: so it is for all statements that are read. -/
theorem bookmark_after (lines : List String) : ∀ s ∈ (r.after lines).parsed.statements,
    ∃ line ∈ lines, ∃ fields, r.fieldsOn line = some fields ∧ ∀ value, s.bookmark? = some value →
      value = Text.trim fields.body ∨ r.rules.patterns.FindsBookmark fields.body s.kind value := by
  refine (r.statements_induction (L := (· ∈ lines)) (K := fun _ => True) trivial ?_ fun _ h => h).2
  intro stack line _ hline
  exact ⟨fun s hs => ⟨line, hline, bookmark_completed hhandlers hs⟩, trivial⟩

/-- White space is looked for only if a pattern has found it. -/
theorem finds_of_isBlankText (lines : List String) {s : Statement}
    (hs : s ∈ (r.after lines).parsed.statements) {value : String} (hvalue : s.bookmark? = some value)
    (hblank : IsBlankText value) : ∃ line ∈ lines, ∃ fields, r.fieldsOn line = some fields ∧
      r.rules.patterns.FindsBookmark fields.body s.kind value := by
  obtain ⟨line, hline, fields, hfields, hcases⟩ := bookmark_after hhandlers lines s hs
  refine ⟨line, hline, fields, hfields, (hcases value hvalue).resolve_left ?_⟩
  rintro rfl
  -- a trimmed body that is blank is empty, and the empty text is not looked for
  obtain ⟨_, -, -, hne⟩ := Statement.bookmark?_eq_some_iff.1 hvalue
  exact hne hblank.eq_empty_of_trim

end TraceReader

/-! ## Patterns that find words -/

namespace DefaultPattern

open Pattern (Node)

/-- **What a group has found is a word**, if no part of the pattern has the group but one that stands for words. -/
theorem exists_word_of_get? {parts : List Node} {names : List String} {text : List Char} {c : Captures}
    (h : (ofParts parts names).captures text = some c) {name value : String} (hvalue : c.get? name = some value)
    {index : Nat} (hname : names.idxOf? name = some index)
    (hparts : ∀ part ∈ parts, index + 1 ∈ part.indices → part = word (index + 1)) :
    ∃ w : Word, value = w.text := by
  obtain ⟨s, hs, rfl⟩ := Option.map_eq_some_iff.1 h
  obtain ⟨run, found, hspells, -, hmatched⟩ := Pattern.spelling_of_firstMatch hs
  have hindex : (none :: names.map some).idxOf? (some name) = some (index + 1) := by
    rw [idxOf?_some_name, hname]
    rfl
  simp only [Captures.get?, Captures.group?, ofParts, hindex, ← s.lookup_matched, hmatched,
    Option.map_eq_some_iff] at hvalue
  obtain ⟨chars, hfound, rfl⟩ := hvalue
  have hmem : (index + 1, chars) ∈ found := by
    obtain ⟨before, after, heq, -⟩ := List.lookup_eq_some_iff.1 hfound
    have hmatch : (index + 1, chars) ∈ (0, run) :: found := by simp [heq]
    simpa using hmatch
  -- one of the parts has found it, which has the group and so stands for words
  obtain ⟨part, hpart, run', found', hfinds, hfound'⟩ := hspells.exists_part _ hmem
  obtain rfl := hparts part hpart (hfinds.index_mem _ hfound')
  obtain ⟨w, hw⟩ := exists_word_of_spells hfinds
  obtain ⟨_, ⟨-, -, -, rfl⟩, rfl⟩ := hfinds
  obtain rfl : chars = run' := by simpa using hfound'
  exact ⟨w, by rw [Word.text, hw]⟩

end DefaultPattern

/-- A word is not blank. -/
theorem Word.not_isBlankText (w : Word) : ¬IsBlankText w.text := by
  intro h
  obtain ⟨c, hc⟩ := List.exists_mem_of_ne_nil _ w.ne_nil
  have hblank : Text.isBlank c = true := h c (by simpa [Word.text] using hc)
  have hword := w.isWord c hc
  rw [isWord_eq_false_of_isBlank hblank] at hword
  cases hword

namespace BodyPatterns

/-- White space is never found for a name. -/
def FindsVisible (patterns : BodyPatterns) : Prop :=
  ∀ body kind value, patterns.FindsBookmark body kind value → IsBlankText value → value = ""

/-- **The default patterns find words for names**, whatever marker and form of parameters there are. -/
theorem findsVisible_default (marker : String) (x : ParamSyntax) :
    { defaultBodyPatterns with scopeMarker := marker, paramSyntax := x : BodyPatterns }.FindsVisible := by
  rintro body kind value ⟨p, key, c, hp, hkey, hc, hvalue⟩ hblank
  obtain ⟨w, rfl⟩ : ∃ w : Word, value = w.text := by
    cases kind with
    | messageReceive | messageSend | startTimer | stopTimer | expiredTimer =>
      obtain rfl := Option.some.inj hp
      obtain rfl := Option.some.inj hkey
      exact DefaultPattern.exists_word_of_get? hc hvalue rfl (by decide)
    | invoke =>
      obtain rfl := Option.some.inj hp
      obtain rfl := Option.some.inj hkey
      split at hc
      · exact DefaultPattern.exists_word_of_get? hc hvalue rfl (by decide)
      · exact DefaultPattern.exists_word_of_get? hc hvalue rfl (by decide)
    | methodReturn | create | delete => cases hkey
    | stateChange | allocate | free | beginAction | endAction | genericAction => cases hp
  exact absurd hblank w.not_isBlankText

end BodyPatterns

end TraceDiagram
