import TraceDiagram.Proofs.Compiling
import TraceDiagram.Proofs.Default.Document
import TraceDiagram.Proofs.Groups

/-! # Groups that are declared twice

The groups of a table are declared once each, and the default group on a line of its own, whether or not the
table has it too.

* **`Layout.declaredGroups`** all groups that a header declares; **`count_declaredGroups`** how often each is
  among them.
* **`declared_twice_iff`** only the default group can be declared twice, and when it is.
* **`sharedGroup_declared_twice`** a document in which it is. -/

namespace TraceDiagram

/-! ## How often groups are declared -/

namespace Layout

variable {l : Layout}

/-- The groups that a header declares, on all of its lines. -/
def declaredGroups (l : Layout) (usesDefaultGroup : Bool) : List String :=
  (l.groupLists usesDefaultGroup).flatten

/-- Without a table no group is declared. -/
theorem declaredGroups_of_isEmpty (h : l.parents.isEmpty = true) (usesDefaultGroup : Bool) :
    l.declaredGroups usesDefaultGroup = [] := by
  rw [declaredGroups, groupLists, if_pos h, List.flatten_nil]

/-- The groups of the table stand on one line, each once, and the default one on another. -/
theorem count_declaredGroups (h : l.parents.isEmpty = false) (usesDefaultGroup : Bool) (group : String) :
    (l.declaredGroups usesDefaultGroup).count group =
      (if group ∈ l.parents.values then 1 else 0) +
        if usesDefaultGroup = true ∧ group = l.format.defaultGroup then 1 else 0 := by
  have htable : l.groups.count group = if group ∈ l.parents.values then 1 else 0 := by
    have hnodup : l.groups.Nodup := (firstOccurrences_eraseDups l.parents.values).nodup
    rw [hnodup.count, groups]
    simp only [List.mem_eraseDups]
  rw [declaredGroups, groupLists, h, if_neg Bool.false_ne_true, List.flatten_cons, List.count_append, htable]
  cases usesDefaultGroup with
  | false => simp
  | true =>
    by_cases hgroup : group = l.format.defaultGroup
    · simp [hgroup]
    · simp [hgroup, Ne.symm hgroup]

/-- No group is declared more than twice, and twice only one that is in the table and used as the default one. -/
theorem count_declaredGroups_cases (l : Layout) (usesDefaultGroup : Bool) (group : String) :
    (l.declaredGroups usesDefaultGroup).count group ≤ 2 ∧
      (1 < (l.declaredGroups usesDefaultGroup).count group ↔
        group ∈ l.parents.values ∧ usesDefaultGroup = true ∧ group = l.format.defaultGroup) := by
  by_cases hparents : l.parents.isEmpty = true
  · have hnone : group ∉ l.parents.values := fun h => by
      simp [Dict.isEmpty_of_mem_values h] at hparents
    simp [declaredGroups_of_isEmpty hparents, hnone]
  · rw [count_declaredGroups (Bool.eq_false_iff.2 hparents)]
    -- the table and the default line contribute one each
    by_cases hvalue : group ∈ l.parents.values
    · by_cases hdefault : usesDefaultGroup = true ∧ group = l.format.defaultGroup
      · rw [if_pos hvalue, if_pos hdefault]
        exact ⟨le_rfl, iff_of_true Nat.one_lt_two ⟨hvalue, hdefault⟩⟩
      · rw [if_pos hvalue, if_neg hdefault]
        exact ⟨Nat.le_succ 1, iff_of_false (lt_irrefl 1) fun h => hdefault h.2⟩
    · rw [if_neg hvalue]
      refine ⟨?_, iff_of_false ?_ fun h => hvalue h.1⟩
      · split_ifs <;> omega
      · split_ifs <;> omega

end Layout

/-- **Only the default group can be declared twice.** For every configuration, whatever patterns, rules and
templates it is used with, and all lines: no group is declared more than twice, and more than once only the
default group, if the table has it and an entity of the trace is missing from the table. -/
theorem declared_twice_iff (config : Config) (linePattern : Pattern) (rules : ExtractionRules)
    (wording : Wording) (lines : List String) :
    let l := (Compiler.mk config wording).layout
    let t := ((TraceReader.withRules linePattern rules config).after lines).parsed
    (l.header t = l.includes ++ String.join ((l.groupLists t.usesDefaultGroup).map Layout.groupLine)
      ++ String.join (t.cast.runs.map l.runLine) ++ l.opening
      ++ String.join (t.cast.orphans.map l.orphanLine)) ∧
    ∀ group, (l.declaredGroups t.usesDefaultGroup).count group ≤ 2 ∧
      (1 < (l.declaredGroups t.usesDefaultGroup).count group ↔
        group = config.format.defaultGroup ∧ group ∈ config.entities.parents.values ∧
          ∃ name ∈ t.cast.names, config.entities.parents.get? name = none) := by
  intro l t
  refine ⟨by rw [Layout.header, Layout.componentLines_eq], fun group => ?_⟩
  have hnotes : t.NotesFallback l.parents :=
    (TraceReader.withRules linePattern rules config).notesFallback_after lines
  obtain ⟨htwo, htwice⟩ := l.count_declaredGroups_cases t.usesDefaultGroup group
  refine ⟨htwo, htwice.trans ⟨?_, ?_⟩⟩
  · rintro ⟨hvalue, hflag, hdefault⟩
    exact ⟨hdefault, hvalue, (hnotes.usesDefaultGroup_iff (Dict.isEmpty_of_mem_values hvalue)).1 hflag⟩
  · rintro ⟨hdefault, hvalue, hmissing⟩
    exact ⟨hvalue, (hnotes.usesDefaultGroup_iff (Dict.isEmpty_of_mem_values hvalue)).2 hmissing, hdefault⟩

/-! ## A table that has the default group -/

/-- A configuration with another table of groups. -/
def Config.withParents (config : Config) (parents : Dict String String) : Config :=
  { config with entities := { parents := parents } }

/-- A reader with another table of groups. -/
def TraceReader.withParents (r : TraceReader) (parents : Dict String String) : TraceReader :=
  { r with parents := parents }

/-- A compiler with another table of groups. -/
def Compiler.withParents (c : Compiler) (parents : Dict String String) : Compiler :=
  { c with config := c.config.withParents parents }

/-- The table has no influence on the patterns and the rules. -/
theorem TraceReader.ofConfig_withParents {config : Config} {r : TraceReader} (h : ofConfig config = .ok r)
    (parents : Dict String String) : ofConfig (config.withParents parents) = .ok (r.withParents parents) := by
  obtain ⟨linePattern, rules, hline, hrules, rfl⟩ := (ofConfig_eq_ok_iff config r).1 h
  exact (ofConfig_eq_ok_iff _ _).2 ⟨linePattern, rules, hline, hrules, rfl⟩

/-- Nor does it have any on the templates. -/
theorem Compiler.ofConfig_withParents {config : Config} {c : Compiler} (h : Compiler.ofConfig config = .ok c)
    (parents : Dict String String) :
    Compiler.ofConfig (config.withParents parents) = .ok (c.withParents parents) := by
  delta Compiler.ofConfig at h ⊢
  have htemplates : (config.withParents parents).templates = config.templates := rfl
  rw [htemplates]
  cases hw : Wording.ofTemplates config.templates with
  | error e => simp [hw] at h
  | ok wording =>
    simp only [hw, Except.ok.injEq] at h ⊢
    rw [← h, Compiler.withParents]

/-- Nor on the pieces of a body. -/
theorem Compiler.block_withParents (c : Compiler) (parents : Dict String String) (s : Statement) :
    (c.withParents parents).layout.block s = c.layout.block s := rfl

/-- A table that has one entity, in the group that is the default one. -/
def sharedGroup : Dict String String := Dict.ofList [("Client", "Component")]

/-- A message of that entity to one that the table does not have. -/
def sharedGroupTrace : String := "[1][Server][a.c] received Hello from Client"

/-- The header for the message declares the group on two lines. -/
def sharedGroupHeader : String :=
  "#include <stdinc.FDL>\n\ncomponent: \"Component\"\ncomponent: \"Component\"\n" ++
    "eternal: \"Client\" in \"Component\", \"Server\" in \"Component\"\n\nfeature \"generated flow\" \x7b\n"

/-- **A group can be declared twice.** The default configuration with the table has a document for the message,
and two lines of its header declare one group. -/
theorem sharedGroup_declared_twice : ∃ c r body,
    Compiler.ofConfig (({} : Config).withParents sharedGroup) = .ok c ∧
      TraceReader.ofConfig (({} : Config).withParents sharedGroup) = .ok r ∧
      (compile (({} : Config).withParents sharedGroup) sharedGroupTrace).1 =
        .ok (sharedGroupHeader ++ body ++ Layout.footer) ∧
      c.layout.declaredGroups (r.read sharedGroupTrace).1.parsed.usesDefaultGroup =
        ["Component", "Component"] := by
  have hc := Compiler.ofConfig_withParents compiler_ofConfig_default sharedGroup
  have hr := TraceReader.ofConfig_withParents ofConfig_default sharedGroup
  -- the statements are those that are read without the table, so the pieces of the body are those, too
  have hstatements : ((defaultReader.withParents sharedGroup).read sharedGroupTrace).1.parsed.statements =
      (defaultReader.read sharedGroupTrace).1.parsed.statements := by decide +kernel
  obtain ⟨blocks, hblocks⟩ := exists_blocks_read sharedGroupTrace
  rw [← hstatements] at hblocks
  have hlaid := hblocks.imp fun s block h =>
    (defaultCompiler.block_withParents sharedGroup s).trans (block_of_isPlainBlock h)
  have hbody : (defaultCompiler.withParents sharedGroup).layout.body
      ((defaultReader.withParents sharedGroup).read sharedGroupTrace).1.parsed = .ok (String.join blocks) := by
    rw [Layout.body, bodyFrom_of_blocks hlaid]
  have hheader : (defaultCompiler.withParents sharedGroup).layout.header
      ((defaultReader.withParents sharedGroup).read sharedGroupTrace).1.parsed = sharedGroupHeader := by
    decide +kernel
  have hreader : (defaultCompiler.withParents sharedGroup).reader =
      .ok (defaultReader.withParents sharedGroup) := (Compiler.reader_eq_ok_iff _ _).2 hr
  refine ⟨_, _, String.join blocks, hc, hr, ?_, by decide +kernel⟩
  rw [compile_of_compiler hc, Compiler.compile_of_body hreader hbody, hheader]

end TraceDiagram
