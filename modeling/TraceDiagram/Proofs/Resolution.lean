import Mathlib.Data.List.Basic
import Mathlib.Data.List.Induction
import TraceDiagram.Proofs.Default.Patterns
import TraceDiagram.Proofs.Extraction

/-! # Resolution of handlers

Handlers are registered under names, and categories go to handlers by name.

* **`ExtractionRules.registerAll`** some registrations, one after the other.
* **`LastUnder`** the handler that a name has been given last; the rules **hold** a history of registrations if
  that is the one that the name stands for.
* **`ExtractionRules.mem_unresolved_iff`** the names that are reported are those that are used and that no handler
  has been given.
* **`GoesTo`** which handler a category goes to; by **`Resolves.goesTo_iff`** that is the one that takes care of it.
* **`handlers_resolved`** what the rules of a configuration come to after any registrations, and after the names
  that are reported have been registered as well. -/

namespace TraceDiagram

/-! ## Names that are used -/

namespace ExtractionRules

variable (rules : ExtractionRules)

/-- The names that are used are those of the mapping and the default one. -/
theorem mem_usedNames_iff (name : String) :
    name ∈ rules.usedNames ↔
      (∃ category, rules.mapping.get? category = some name) ∨ name = rules.defaultHandler := by
  rw [usedNames, List.mem_append, List.mem_singleton, Dict.values, List.mem_map]
  constructor
  · rintro (⟨⟨category, _⟩, hentry, rfl⟩ | hdefault)
    · exact .inl ⟨category, Dict.get?_of_mem_entries hentry⟩
    · exact .inr hdefault
  · rintro (⟨category, hname⟩ | hdefault)
    · exact .inl ⟨(category, name), Dict.mem_entries_of_get? hname, rfl⟩
    · exact .inr hdefault

/-- The names that are reported are used and stand for no handler. -/
theorem mem_unresolved_iff (name : String) :
    name ∈ rules.unresolved ↔ name ∈ rules.usedNames ∧ rules.handler? name = none := by
  rw [unresolved, TextSet.mem_ofList, List.mem_filter, Dict.contains, handler?]
  simp

/-- No name is unresolved if all names that are used stand for handlers. -/
theorem unresolved_eq_nil_iff : rules.unresolved = [] ↔
    ∀ name ∈ rules.usedNames, ∃ handler, rules.handler? name = some handler := by
  rw [List.eq_nil_iff_forall_not_mem]
  refine forall_congr' fun name => ?_
  rw [mem_unresolved_iff, not_and, ← Option.ne_none_iff_exists']

end ExtractionRules

/-! ## Registrations -/

/-- The handler that a name has been given last, in a history of registrations. -/
def LastUnder (history : List (String × Handler)) (name : String) (handler : Handler) : Prop :=
  ∃ before after, history = before ++ (name, handler) :: after ∧ name ∉ after.map Prod.fst

section History

variable {history : List (String × Handler)} {name : String} {handler : Handler}

/-- A registration settles what its name stands for, and nothing about other names. -/
theorem lastUnder_concat {entry : String × Handler} : LastUnder (history ++ [entry]) name handler ↔
    (name = entry.1 ∧ handler = entry.2) ∨ (name ≠ entry.1 ∧ LastUnder history name handler) := by
  constructor
  · rintro ⟨before, after, heq, hlast⟩
    -- either nothing stands behind the last registration of the name, or it ends with the new one
    rcases List.eq_nil_or_concat' after with rfl | ⟨front, other, rfl⟩
    · obtain ⟨-, rfl⟩ := List.append_singleton_inj.1 heq
      exact .inl ⟨rfl, rfl⟩
    · rw [← List.cons_append, ← List.append_assoc] at heq
      obtain ⟨rfl, rfl⟩ := List.append_singleton_inj.1 heq
      rw [List.map_append, List.mem_append, not_or] at hlast
      exact .inr ⟨by simpa using hlast.2, before, front, rfl, hlast.1⟩
  · rintro (⟨rfl, rfl⟩ | ⟨hne, before, after, rfl, hlast⟩)
    · exact ⟨history, [], rfl, List.not_mem_nil⟩
    · refine ⟨before, after ++ [entry], by simp, ?_⟩
      rw [List.map_append, List.mem_append, not_or]
      exact ⟨hlast, by simpa using hne⟩

/-- A name that has been given a handler has been given one last. -/
theorem exists_lastUnder_iff : (∃ handler, LastUnder history name handler) ↔ name ∈ history.map Prod.fst := by
  constructor
  · rintro ⟨handler, before, after, rfl, -⟩
    exact List.mem_map_of_mem (f := Prod.fst) (List.mem_append_right before List.mem_cons_self)
  · intro hmem
    induction history using List.reverseRecOn with
    | nil => cases hmem
    | append_singleton history entry ih =>
      rw [List.map_append, List.mem_append, List.map_singleton, List.mem_singleton] at hmem
      by_cases hname : name = entry.1
      · exact ⟨entry.2, lastUnder_concat.2 (.inl ⟨hname, rfl⟩)⟩
      · obtain ⟨handler, hlast⟩ := ih (hmem.resolve_right hname)
        exact ⟨handler, lastUnder_concat.2 (.inr ⟨hname, hlast⟩)⟩

/-- In a dictionary, every name has been given one handler only. -/
theorem lastUnder_entries {handlers : Dict String Handler} :
    LastUnder handlers.entries name handler ↔ handlers.get? name = some handler := by
  constructor
  · rintro ⟨before, after, heq, -⟩
    exact Dict.get?_of_mem_entries (heq ▸ List.mem_append_right before List.mem_cons_self)
  · intro hget
    obtain ⟨before, after, heq⟩ := List.append_of_mem (Dict.mem_entries_of_get? hget)
    have hnodup := handlers.nodup_keys
    rw [heq, List.map_append, List.map_cons, List.nodup_append] at hnodup
    exact ⟨before, after, heq, (List.nodup_cons.1 hnodup.2.1).1⟩

/-- Registrations of other names change nothing. -/
theorem LastUnder.append {more : List (String × Handler)} (h : LastUnder history name handler)
    (hmore : name ∉ more.map Prod.fst) : LastUnder (history ++ more) name handler := by
  obtain ⟨before, after, rfl, hlast⟩ := h
  refine ⟨before, after ++ more, by simp, ?_⟩
  rw [List.map_append, List.mem_append, not_or]
  exact ⟨hlast, hmore⟩

end History

namespace ExtractionRules

/-- The rules after some registrations, one after the other. -/
def registerAll (rules : ExtractionRules) (more : List (String × Handler)) : ExtractionRules :=
  more.foldl (fun r entry => r.register entry.1 entry.2) rules

variable {rules : ExtractionRules} {history : List (String × Handler)} {name : String}

/-- The rules hold the handlers of a history of registrations. -/
def Holds (rules : ExtractionRules) (history : List (String × Handler)) : Prop :=
  ∀ name handler, rules.handler? name = some handler ↔ LastUnder history name handler

theorem Holds.register (h : rules.Holds history) (entry : String × Handler) :
    (rules.register entry.1 entry.2).Holds (history ++ [entry]) := by
  intro name handler
  rw [lastUnder_concat, ← h name handler]
  change (rules.handlers.insert entry.1 entry.2).get? name = some handler ↔ _
  rw [Dict.get?_insert]
  by_cases hname : name = entry.1
  · simp [hname, eq_comm]
  · simp [hname, handler?]

theorem Holds.registerAll (h : rules.Holds history) (more : List (String × Handler)) :
    (rules.registerAll more).Holds (history ++ more) := by
  induction more generalizing rules history with
  | nil => rwa [List.append_nil]
  | cons entry more ih =>
    have hrest := ih (h.register entry)
    rwa [List.append_assoc] at hrest

/-- With the handlers that there are, a name stands for the handler of that name. -/
theorem holds_builtin {config : Config} (h : ofConfig config = .ok rules) :
    rules.Holds builtinHandlers.entries := by
  obtain ⟨_, -, rfl⟩ := (ofConfig_eq_ok_iff config rules).1 h
  exact fun _ _ => lastUnder_entries.symm

/-- A name stands for a handler if it has been given one. -/
theorem Holds.exists_handler_iff (h : rules.Holds history) :
    (∃ handler, rules.handler? name = some handler) ↔ name ∈ history.map Prod.fst := by
  rw [← exists_lastUnder_iff]
  exact exists_congr (h name)

theorem Holds.handler?_eq_none_iff (h : rules.Holds history) :
    rules.handler? name = none ↔ name ∉ history.map Prod.fst := by
  rw [← h.exists_handler_iff, ← Option.ne_none_iff_exists', not_not]

@[simp] theorem mapping_registerAll (more : List (String × Handler)) :
    (rules.registerAll more).mapping = rules.mapping := by
  induction more generalizing rules with
  | nil => rfl
  | cons entry more ih => exact ih

@[simp] theorem defaultHandler_registerAll (more : List (String × Handler)) :
    (rules.registerAll more).defaultHandler = rules.defaultHandler := by
  induction more generalizing rules with
  | nil => rfl
  | cons entry more ih => exact ih

end ExtractionRules

/-! ## Categories -/

/-- Which handler a category goes to after a history of registrations: the last one under its own name, or else
the last one under the default name, or else the one for any action. -/
inductive GoesTo (history : List (String × Handler)) (mapping : Dict String String) (default category : String) :
    Handler → Prop where
  /-- A handler has been registered under the category's own name. -/
  | own {name : String} {handler : Handler} (hname : mapping.get? category = some name)
      (hlast : LastUnder history name handler) : GoesTo history mapping default category handler
  /-- The category has no name, or one under which nothing has been registered. -/
  | fallback {handler : Handler}
      (hown : ∀ name, mapping.get? category = some name → name ∉ history.map Prod.fst)
      (hlast : LastUnder history default handler) : GoesTo history mapping default category handler
  /-- Nothing has been registered under the default name, either. -/
  | generic (hown : ∀ name, mapping.get? category = some name → name ∉ history.map Prod.fst)
      (hdefault : default ∉ history.map Prod.fst) :
      GoesTo history mapping default category Handler.genericAction

/-- What rules make of names after a history of registrations. -/
structure Resolves (history : List (String × Handler)) (mapping : Dict String String) (default : String)
    (rules : ExtractionRules) : Prop where
  /-- Each category is taken care of by the handler that it goes to, and by no other. -/
  goesTo_iff : ∀ category handler,
    GoesTo history mapping default category handler ↔ rules.handlerFor category = handler
  /-- The names that are reported are listed in order, and none of them twice. -/
  sorted : rules.unresolved.Pairwise (· < ·)
  /-- They are those of the mapping and the default one, as far as nothing has been registered under them. -/
  mem_unresolved_iff : ∀ name, name ∈ rules.unresolved ↔
    (name ∈ mapping.values ∨ name = default) ∧ name ∉ history.map Prod.fst

namespace ExtractionRules.Holds

variable {rules : ExtractionRules} {history : List (String × Handler)} {category name : String} {handler : Handler}

/-- A category whose own name has been given a handler goes to the last one. -/
theorem handlerFor_of_own (h : rules.Holds history) (hname : rules.mapping.get? category = some name)
    (hlast : LastUnder history name handler) : rules.handlerFor category = handler := by
  rw [handlerFor, hname, Option.bind_some, (h name handler).2 hlast]

/-- Other categories go to the default handler. -/
theorem handlerFor_of_not_own (h : rules.Holds history)
    (hown : ∀ name, rules.mapping.get? category = some name → name ∉ history.map Prod.fst) :
    rules.handlerFor category = (rules.handler? rules.defaultHandler).getD Handler.genericAction := by
  have hnone : (rules.mapping.get? category).bind rules.handler? = none := by
    rw [Option.bind_eq_none_iff]
    exact fun name hname => h.handler?_eq_none_iff.2 (hown name hname)
  rw [handlerFor, hnone]

theorem handlerFor_of_goesTo (h : rules.Holds history)
    (hgoes : GoesTo history rules.mapping rules.defaultHandler category handler) :
    rules.handlerFor category = handler := by
  cases hgoes with
  | own hname hlast => exact h.handlerFor_of_own hname hlast
  | fallback hown hlast => rw [h.handlerFor_of_not_own hown, (h _ _).2 hlast, Option.getD_some]
  | generic hown hdefault =>
    rw [h.handlerFor_of_not_own hown, h.handler?_eq_none_iff.2 hdefault, Option.getD_none]

/-- Every category goes to a handler. -/
theorem exists_goesTo (history : List (String × Handler)) (mapping : Dict String String) (default category : String) :
    ∃ handler, GoesTo history mapping default category handler := by
  by_cases hown : ∀ name, mapping.get? category = some name → name ∉ history.map Prod.fst
  · by_cases hdefault : default ∈ history.map Prod.fst
    · obtain ⟨handler, hlast⟩ := exists_lastUnder_iff.2 hdefault
      exact ⟨handler, .fallback hown hlast⟩
    · exact ⟨_, .generic hown hdefault⟩
  · push Not at hown
    obtain ⟨name, hname, hmem⟩ := hown
    obtain ⟨handler, hlast⟩ := exists_lastUnder_iff.2 hmem
    exact ⟨handler, .own hname hlast⟩

theorem resolves (h : rules.Holds history) : Resolves history rules.mapping rules.defaultHandler rules where
  goesTo_iff category handler := by
    refine ⟨h.handlerFor_of_goesTo, ?_⟩
    rintro rfl
    obtain ⟨handler, hgoes⟩ := exists_goesTo history rules.mapping rules.defaultHandler category
    rwa [h.handlerFor_of_goesTo hgoes]
  sorted := TextSet.sorted _
  mem_unresolved_iff name := by
    rw [rules.mem_unresolved_iff, h.handler?_eq_none_iff, usedNames, List.mem_append, List.mem_singleton]

/-- What is registered under the names that are reported leaves none to report. -/
theorem unresolved_registerAll (h : rules.Holds history) {more : List (String × Handler)}
    (hmore : ∀ name ∈ rules.unresolved, name ∈ more.map Prod.fst) : (rules.registerAll more).unresolved = [] := by
  rw [List.eq_nil_iff_forall_not_mem]
  intro name hname
  rw [(h.registerAll more).resolves.mem_unresolved_iff, mapping_registerAll, defaultHandler_registerAll,
    List.map_append, List.mem_append, not_or] at hname
  obtain ⟨hused, hnever, hnot⟩ := hname
  exact hnot (hmore name ((h.resolves.mem_unresolved_iff name).2 ⟨hused, hnever⟩))

/-- Then the categories of the mapping go to the handlers of their own names. -/
theorem lastUnder_registerAll (h : rules.Holds history) {more : List (String × Handler)}
    (hmore : ∀ name ∈ rules.unresolved, name ∈ more.map Prod.fst)
    (hname : rules.mapping.get? category = some name) :
    LastUnder (history ++ more) name ((rules.registerAll more).handlerFor category) := by
  have hall := h.registerAll more
  have hused := ((rules.registerAll more).mem_usedNames_iff name).2 (.inl ⟨category, by simpa using hname⟩)
  obtain ⟨handler, hhandler⟩ :=
    (rules.registerAll more).unresolved_eq_nil_iff.1 (h.unresolved_registerAll hmore) name hused
  have hlast := (hall name handler).1 hhandler
  rwa [hall.handlerFor_of_own (by simpa using hname) hlast]

/-- A category whose own name stood for a handler keeps that, unless something else is registered under it. -/
theorem handlerFor_registerAll (h : rules.Holds history) {more : List (String × Handler)}
    (hname : rules.mapping.get? category = some name) (hmem : name ∈ history.map Prod.fst)
    (hnew : name ∉ more.map Prod.fst) :
    (rules.registerAll more).handlerFor category = rules.handlerFor category := by
  obtain ⟨handler, hlast⟩ := exists_lastUnder_iff.2 hmem
  rw [(h.registerAll more).handlerFor_of_own (by simpa using hname) (hlast.append hnew),
    h.handlerFor_of_own hname hlast]

end ExtractionRules.Holds

/-- **Handlers are resolved by name**, whatever has been registered. After any registrations, the rules of a
configuration hand each category to the handler that was registered last under its own name, or else to the default
one, or else to the one for any action, and report the names that are used without a handler. Once all the names
that are reported have been registered, none is left to report and each category of the mapping goes to the last
handler of its own name. If only names that are reported are registered then a category whose own name stood for a
handler keeps that. -/
theorem handlers_resolved {config : Config} {rules : ExtractionRules}
    (h : ExtractionRules.ofConfig config = .ok rules) (calls : List (String × Handler)) :
    let history := builtinHandlers.entries ++ calls
    let called := rules.registerAll calls
    Resolves history config.trace.mapping config.trace.defaultHandler called ∧
      ∀ more : List (String × Handler),
        ((∀ name ∈ called.unresolved, name ∈ more.map Prod.fst) → (called.registerAll more).unresolved = [] ∧
          ∀ category name, config.trace.mapping.get? category = some name →
            LastUnder (history ++ more) name ((called.registerAll more).handlerFor category)) ∧
        ((∀ name ∈ more.map Prod.fst, name ∈ called.unresolved) →
          ∀ category name, config.trace.mapping.get? category = some name → name ∈ history.map Prod.fst →
            (called.registerAll more).handlerFor category = called.handlerFor category) := by
  intro history called
  have hholds : called.Holds history := (ExtractionRules.holds_builtin h).registerAll calls
  obtain ⟨_, -, hrules⟩ := (ExtractionRules.ofConfig_eq_ok_iff config rules).1 h
  have hmapping : called.mapping = config.trace.mapping := by
    rw [ExtractionRules.mapping_registerAll, ← hrules]
  have hdefault : called.defaultHandler = config.trace.defaultHandler := by
    rw [ExtractionRules.defaultHandler_registerAll, ← hrules]
  rw [← hmapping, ← hdefault]
  refine ⟨hholds.resolves, fun more => ⟨fun hmore => ?_, fun hmore category name hname hmem => ?_⟩⟩
  · exact ⟨hholds.unresolved_registerAll hmore, fun _ _ => hholds.lastUnder_registerAll hmore⟩
  · -- a name that stands for a handler is not reported, so it is not registered again
    have hnew : name ∉ more.map Prod.fst := fun hagain =>
      ((hholds.resolves.mem_unresolved_iff name).1 (hmore name hagain)).2 hmem
    exact hholds.handlerFor_registerAll hname hmem hnew

/-- A configuration whose default handler, like that of one category, is not there. -/
def incomplete : Config where
  trace := { mapping := Dict.ofList [("called", "Invoke"), ("warned", "Warning")], defaultHandler := "Other" }

/-- Its rules. -/
def incompleteRules : ExtractionRules where
  patterns := { defaultBodyPatterns with }
  handlers := builtinHandlers
  mapping := incomplete.trace.mapping
  defaultHandler := incomplete.trace.defaultHandler

/-- The handler of calls is replaced twice and stays the last one, while the handlers that are missing are
registered. -/
theorem handlers_resolved_incomplete :
    ExtractionRules.ofConfig incomplete = .ok incompleteRules ∧
      let called := incompleteRules.registerAll [("Invoke", Handler.create), ("Invoke", Handler.delete)]
      let completed := called.registerAll [("Warning", Handler.messageSend), ("Other", Handler.create)]
      called.unresolved = ["Other", "Warning"] ∧ called.handlerFor "called" = Handler.delete ∧
        called.handlerFor "warned" = Handler.genericAction ∧ completed.unresolved = [] ∧
        completed.handlerFor "called" = Handler.delete ∧ completed.handlerFor "warned" = Handler.messageSend := by
  have hrules : ExtractionRules.ofConfig incomplete = .ok incompleteRules :=
    (ExtractionRules.ofConfig_eq_ok_iff _ _).2 ⟨_, bodyPatterns_ofConfig_of_patterns rfl, rfl⟩
  refine ⟨hrules, ?_⟩
  intro called completed
  obtain ⟨hresolves, hcompleted⟩ :=
    handlers_resolved hrules [("Invoke", Handler.create), ("Invoke", Handler.delete)]
  have hreported : called.unresolved = ["Other", "Warning"] := by decide +kernel
  have hown : incomplete.trace.mapping.get? "called" = some "Invoke" := by decide
  have hmissing : incomplete.trace.mapping.get? "warned" = some "Warning" := by decide
  have hdelete : called.handlerFor "called" = Handler.delete :=
    (hresolves.goesTo_iff "called" _).1
      (.own hown ⟨builtinHandlers.entries ++ [("Invoke", Handler.create)], [], by simp, by simp⟩)
  have hgeneric : called.handlerFor "warned" = Handler.genericAction := by
    refine (hresolves.goesTo_iff "warned" _).1 (.generic (fun name hname => ?_) (by decide))
    obtain rfl := Option.some.inj (hmissing.symm.trans hname)
    decide
  obtain ⟨hcovers, hkeeps⟩ := hcompleted [("Warning", Handler.messageSend), ("Other", Handler.create)]
  have hnone : completed.unresolved = [] := (hcovers (by rw [hreported]; decide)).1
  have hkept : completed.handlerFor "called" = called.handlerFor "called" :=
    hkeeps (by rw [hreported]; decide) "called" "Invoke" hown (by decide)
  exact ⟨hreported, hdelete, hgeneric, hnone, hkept.trans hdelete, rfl⟩

end TraceDiagram
