import TraceDiagram.Proofs.DocumentText
import TraceDiagram.Proofs.Reading
import TraceDiagram.Proofs.References

/-! # Declared entities

Which names the header of a document declares.

* **`StatementKind.entityAttributes`** the attributes that name entities; **`Statement.Mentions`** a statement gives a
  non-empty name to one of those of its kind.
* **`ParsedTrace.Recorded`** the invariant of reading: the cast lists the referred names of the stored
  statements, in order of their first reference. **`recorded_after`** is its run lemma.
* **`flatMap_declarations_runsOf`** the runs of some entities declare each of them, in order.
* **`Layout.DeclaresEntities`** the lines of a header, as they are written, declare each mentioned name in one place,
  and nothing else; **`declarations_after`** so do those of every document. -/

namespace TraceDiagram

/-! ## References of statements -/

/-- The attributes that name entities in statements of a kind. -/
def StatementKind.entityAttributes : StatementKind → List String
  | .messageSend | .messageReceive => ["source", "destination"]
  | .invoke => ["caller", "called"]
  | .methodReturn => ["called"]
  | .create => ["creator", "created"]
  | .delete => ["deletor", "deleted"]
  | .stateChange => ["object"]
  | .startTimer | .stopTimer | .expiredTimer => ["object"]
  | .allocate | .free => ["object"]
  | .beginAction | .endAction => ["object"]
  | .genericAction => ["actor"]

/-- References are looked for in these attributes, in this order. -/
theorem StatementKind.map_fst_entityKeys (kind : StatementKind) :
    kind.entityKeys.map Prod.fst = kind.entityAttributes := by
  cases kind <;> rfl

namespace Statement

/-- The name that an attribute gives. The empty text is no name. -/
def name? (s : Statement) (key : String) : Option String := (s.value? key).filter (· ≠ "")

theorem name?_eq_some_iff {s : Statement} {key name : String} :
    s.name? key = some name ↔ s.value? key = some name ∧ name ≠ "" := by
  simp [name?, Option.filter_eq_some_iff]

/-- The names that a statement refers to, in the order of its kind. -/
def referredNames (s : Statement) : List String := s.references.map Prod.fst

/-- Whether a statement gives the name to one of the entity attributes of its kind. The empty text is no
name. -/
def Mentions (s : Statement) (name : String) : Prop :=
  name ≠ "" ∧ ∃ key ∈ s.kind.entityAttributes, s.value? key = some name

/-- A statement refers to the names that the keys of its kind give. -/
theorem references_eq (s : Statement) :
    s.references = s.kind.entityKeys.filterMap fun key => (s.name? key.1).map (·, key.2) := by
  rw [references]
  congr 1
  funext key
  rw [name?]
  cases s.value? key.1 with
  | none => rfl
  | some name => by_cases h : name = "" <;> simp [h, Option.filter]

/-- What a key tells about an entity does not matter for its name. -/
theorem referredNames_eq (s : Statement) : s.referredNames = s.kind.entityAttributes.filterMap s.name? := by
  have hname : ∀ key : String × Lifetime, ((s.name? key.1).map (·, key.2)).map Prod.fst = s.name? key.1 := by
    intro key
    rw [Option.map_map]
    exact Option.map_id'
  rw [referredNames, references_eq, List.map_filterMap, ← StatementKind.map_fst_entityKeys, List.filterMap_map]
  exact List.filterMap_congr fun key _ => hname key

/-- `referredNames` lists exactly the mentioned names. -/
theorem mem_referredNames (s : Statement) (name : String) :
    name ∈ s.referredNames ↔ s.Mentions name := by
  simp only [referredNames_eq, List.mem_filterMap, name?_eq_some_iff, Mentions]
  constructor
  · rintro ⟨key, hkey, hvalue, hne⟩
    exact ⟨hne, key, hkey, hvalue⟩
  · rintro ⟨hne, key, hkey, hvalue⟩
    exact ⟨key, hkey, hvalue, hne⟩

end Statement

/-! ## The cast of a trace -/

namespace ParsedTrace

/-- The cast lists the referred names of the statements, later repeats left out. -/
def Recorded (t : ParsedTrace) : Prop :=
  t.cast.names = (t.statements.flatMap Statement.referredNames).eraseDups

/-- Taking note of references is a matter of the cast. -/
theorem cast_foldl_refer (t : ParsedTrace) (parents : Dict String String)
    (refs : List (String × Lifetime)) :
    (refs.foldl (refer · parents) t).cast = t.cast.referAll refs := by
  induction refs generalizing t with
  | nil => rfl
  | cons ref refs ih => exact ih (t.refer parents ref)

/-- **Step lemma**: storing a statement keeps the cast in step with the statements. -/
theorem Recorded.store {t : ParsedTrace} (h : t.Recorded) (parents : Dict String String)
    (s : Statement) : (t.store parents s).Recorded := by
  have hcast : (t.store parents s).cast = t.cast.referAll s.references :=
    cast_foldl_refer t parents s.references
  rw [Recorded, statements_store, hcast, Cast.names_referAll h, List.flatMap_append]
  simp [Statement.referredNames]

/-- So the names in the cast are the mentioned ones. -/
theorem Recorded.mem_names_iff {t : ParsedTrace} (h : t.Recorded) (name : String) :
    name ∈ t.cast.names ↔ ∃ s ∈ t.statements, s.Mentions name := by
  rw [Recorded] at h
  simp only [h, List.mem_eraseDups, List.mem_flatMap, Statement.mem_referredNames]

end ParsedTrace

namespace TraceReader

/-- **Run lemma**: after any lines, the cast lists the referred names of the stored statements. -/
theorem recorded_after (r : TraceReader) (lines : List String) : (r.after lines).parsed.Recorded :=
  r.parsed_induction (P := ParsedTrace.Recorded) rfl (fun _ s h => h.store r.parents s) lines

end TraceReader

/-! ## Runs of declarations -/

/-- The entities of a run, each with the keyword of the run. -/
def Run.declarations (run : Run) : List (String × Bool) := run.names.map (·, run.dynamic)

@[simp] theorem Run.map_fst_declarations (run : Run) : run.declarations.map Prod.fst = run.names := by
  rw [declarations, List.map_map]
  exact List.map_id _

namespace Cast

/-- Putting an entity in front of some runs puts its declaration in front of theirs. -/
theorem flatMap_declarations_addToRuns (name : String) (dynamic : Bool) (runs : List Run) :
    (addToRuns name dynamic runs).flatMap Run.declarations =
      (name, dynamic) :: runs.flatMap Run.declarations := by
  cases runs with
  | nil => rfl
  | cons run rest => by_cases h : run.dynamic = dynamic <;> simp [addToRuns, Run.declarations, h]

/-- The runs of some entities declare each of them, in order, as what is known about it asks for. -/
theorem flatMap_declarations_runsOf (members : List (String × Lifetime)) :
    (runsOf members).flatMap Run.declarations = members.map fun m => (m.1, m.2.isDynamic) := by
  induction members with
  | nil => rfl
  | cons member members ih =>
    rw [runsOf, List.foldr_cons, flatMap_declarations_addToRuns, List.map_cons, ← ih, runsOf]

/-- The runs of a cast name each member once, in order. -/
theorem flatMap_names_runs (c : Cast) : c.runs.flatMap Run.names = c.names := by
  calc c.runs.flatMap Run.names
      = (c.runs.flatMap Run.declarations).map Prod.fst := by
        simp only [List.map_flatMap, Run.map_fst_declarations]
    _ = c.names := by
      rw [runs, flatMap_declarations_runsOf, List.map_map]
      rfl

/-- So do the lines for the runs. -/
theorem flatMap_names_lines (c : Cast) : (c.runs.map Run.line).flatMap DeclarationLine.names = c.names := by
  rw [List.flatMap_map, ← c.flatMap_names_runs]
  rfl

/-- A name stands once in the cast or not at all. -/
theorem count_names (c : Cast) (name : String) : c.names.count name = if name ∈ c.names then 1 else 0 :=
  c.members.keys_nodup.count

theorem ne_nil_of_mem_addToRuns {name : String} {dynamic : Bool} {runs : List Run}
    (h : ∀ r ∈ runs, r.names ≠ []) : ∀ r ∈ addToRuns name dynamic runs, r.names ≠ [] := by
  cases runs with
  | nil => simp [addToRuns]
  | cons run rest =>
    rw [List.forall_mem_cons] at h
    by_cases hd : run.dynamic = dynamic
    · simpa [addToRuns, hd] using h.2
    · simpa [addToRuns, hd] using h

/-- No run is empty. -/
theorem ne_nil_of_mem_runs (c : Cast) : ∀ r ∈ c.runs, r.names ≠ [] := by
  rw [runs, runsOf]
  induction c.members.entries with
  | nil => exact List.forall_mem_nil _
  | cons member members ih => exact ne_nil_of_mem_addToRuns ih

/-- Each of these lines begins with one of two words and declares something. -/
theorem of_mem_lines (c : Cast) {d : DeclarationLine} (h : d ∈ c.runs.map Run.line) :
    (d.keyword = "eternal" ∨ d.keyword = "dynamic") ∧ d.names ≠ [] := by
  obtain ⟨run, hrun, rfl⟩ := List.mem_map.1 h
  exact ⟨run.keyword_line_cases, c.ne_nil_of_mem_runs run hrun⟩

/-- The orphans are the members that are known to be deleted. -/
theorem mem_orphans_iff (c : Cast) (name : String) :
    name ∈ c.orphans ↔ c.lifetime? name = some .deleted := by
  simp only [orphans, List.mem_map, List.mem_filter, decide_eq_true_eq]
  constructor
  · rintro ⟨⟨_, _⟩, ⟨hm, rfl⟩, rfl⟩
    exact Dict.get?_of_mem_entries hm
  · intro h
    exact ⟨(name, .deleted), ⟨Dict.mem_entries_of_get? h, rfl⟩, rfl⟩

end Cast

namespace Layout

/-- What a document says about the entities of its trace. -/
structure DeclaresEntities (l : Layout) (t : ParsedTrace) : Prop where
  /-- A statement refers to the names that the attributes of its kind give, in their order. -/
  referred : ∀ s ∈ t.statements, s.referredNames = s.kind.entityAttributes.filterMap s.name?
  /-- The cast lists what the statements refer to, later repeats left out. -/
  names : t.cast.names = (t.statements.flatMap Statement.referredNames).eraseDups
  /-- The lines between the groups and the title declare the cast, and no line does so for no entity. Of the names in
  them, those that a statement mentions stand there once and all others not at all. -/
  declared : ∃ declarations : List DeclarationLine,
    l.document t = (l.body t).map
      (documentText l.format l.parents t.usesDefaultGroup declarations t.cast.orphans) ∧
    (∀ d ∈ declarations, (d.keyword = "eternal" ∨ d.keyword = "dynamic") ∧ d.names ≠ []) ∧
    declarations.flatMap DeclarationLine.names = t.cast.names ∧
    ∀ name,
      ((declarations.flatMap DeclarationLine.names).count name = 1 ↔ ∃ s ∈ t.statements, s.Mentions name) ∧
      ((declarations.flatMap DeclarationLine.names).count name = 0 ↔ ¬∃ s ∈ t.statements, s.Mentions name)

/-- If the cast lists what the statements refer to, the runs of the cast are the lines. -/
theorem declaresEntities_of_recorded (l : Layout) {t : ParsedTrace} (h : t.Recorded) : l.DeclaresEntities t where
  referred s _ := s.referredNames_eq
  names := h
  declared := by
    have hnames := t.cast.flatMap_names_lines
    refine ⟨t.cast.runs.map Run.line, l.document_eq t, fun d => t.cast.of_mem_lines, hnames, fun name => ?_⟩
    -- each member of the cast is named once, so counting decides membership
    rw [hnames, t.cast.count_names, ← h.mem_names_iff name]
    by_cases hname : name ∈ t.cast.names <;> simp [hname]

end Layout

/-- **Each mentioned name is declared in one place, and nothing else is.** Whatever a reader is made of, whatever
lines it reads and however the documents of the trace are laid out: the cast is the list of the names that the stored
statements refer to, later repeats left out; every document declares the cast on lines that are written as
`documentText` says; and of the names on these lines, those that a statement mentions stand there once and all others
not at all. -/
theorem declarations_after (r : TraceReader) (lines : List String) (l : Layout) :
    l.DeclaresEntities (r.after lines).parsed :=
  l.declaresEntities_of_recorded (r.recorded_after lines)

end TraceDiagram
