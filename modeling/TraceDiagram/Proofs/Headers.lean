import TraceDiagram.Proofs.Declarations

/-! # What a header tells

The header of a document tells the cast of its trace, whatever the title, the indentation and the groups are.

* **`IsPlain`** a text that the marks of a header cannot be mistaken for; **`Layout.IsPlainEntity`** an entity
  whose declaration is made of such texts.
* **`Cast.classes`** the entities with the keywords that they are declared with. The runs tell them:
  **`Cast.runs_eq_iff`**; and with the orphans they tell the cast: **`Cast.ext_classes`**.
* **`Layout.runLines_injective`**, **`Layout.orphanLines_injective`** what lies between the lines of a header
  can be read off, from the left.
* **`header_eq_iff`** two headers are equal exactly if they tell the same. -/

namespace TraceDiagram

/-! ## Casts -/

namespace Cast

/-- The entities, each with whether it is declared as one that comes or goes. -/
def classes (c : Cast) : List (String × Bool) := c.members.entries.map fun m => (m.1, m.2.isDynamic)

/-- Runs with the names of some entities come from adding them one by one. -/
theorem runsOf_eq_foldr (members : List (String × Lifetime)) :
    runsOf members = (members.map fun m => (m.1, m.2.isDynamic)).foldr
      (fun m runs => addToRuns m.1 m.2 runs) [] := by
  rw [runsOf, List.foldr_map]

/-- The runs declare each entity with its keyword. -/
theorem flatMap_declarations_runs (c : Cast) : c.runs.flatMap Run.declarations = c.classes :=
  flatMap_declarations_runsOf _

/-- **The runs of a cast tell its classes**, and nothing else. -/
theorem runs_eq_iff (c d : Cast) : c.runs = d.runs ↔ c.classes = d.classes := by
  constructor
  · intro h
    rw [← flatMap_declarations_runs, ← flatMap_declarations_runs, h]
  · intro h
    unfold classes at h
    rw [runs, runs, runsOf_eq_foldr, runsOf_eq_foldr, h]

theorem mem_names_of_mem_orphans {c : Cast} {name : String} (h : name ∈ c.orphans) : name ∈ c.names := by
  obtain ⟨m, hm, rfl⟩ := List.mem_map.1 h
  exact List.mem_map_of_mem (List.mem_filter.1 hm).1

/-- **Classes and orphans make up the cast.** -/
theorem ext_classes {c d : Cast} (hclasses : c.classes = d.classes)
    (horphans : ∀ name, name ∈ c.orphans ↔ name ∈ d.orphans) : c = d := by
  have hlength : c.members.entries.length = d.members.entries.length := by
    simpa [classes] using congrArg List.length hclasses
  have hentries : c.members.entries = d.members.entries := by
    refine List.ext_getElem hlength fun i hi hi' => ?_
    have hclass : (c.members.entries[i].1, c.members.entries[i].2.isDynamic) =
        (d.members.entries[i].1, d.members.entries[i].2.isDynamic) := by
      have h := congrArg (fun cs => cs[i]?) hclasses
      simpa [classes, hi, hi'] using h
    generalize hm : c.members.entries[i] = m at hclass
    generalize hm' : d.members.entries[i] = m' at hclass
    have hmem : (m.1, m.2) ∈ c.members.entries := hm ▸ List.getElem_mem hi
    have hmem' : (m'.1, m'.2) ∈ d.members.entries := hm' ▸ List.getElem_mem hi'
    obtain ⟨name, lifetime⟩ := m
    obtain ⟨name', lifetime'⟩ := m'
    obtain ⟨rfl, hdynamic⟩ := Prod.mk.inj hclass
    -- of two lifetimes with one keyword, either both or neither belong to an orphan
    have hdeleted := horphans name
    rw [mem_orphans_iff, mem_orphans_iff, lifetime?, lifetime?, Dict.get?_of_mem_entries hmem,
      Dict.get?_of_mem_entries hmem', Option.some_inj, Option.some_inj] at hdeleted
    cases lifetime <;> cases lifetime' <;> simp_all [Lifetime.isDynamic]
  cases c
  cases d
  exact congrArg Cast.mk (Dict.ext_entries hentries)

end Cast

/-! ## Lines of the header -/

/-- A text without the marks that entities are declared with, on one line. -/
structure IsPlain (text : String) : Prop where
  /-- No comma begins another declaration. -/
  comma_not_mem : ',' ∉ text.toList
  /-- No quote ends a name or a group. -/
  quote_not_mem : '"' ∉ text.toList
  /-- The line goes on. -/
  newline_not_mem : '\n' ∉ text.toList

instance (text : String) : Decidable (IsPlain text) :=
  decidable_of_iff (',' ∉ text.toList ∧ '"' ∉ text.toList ∧ '\n' ∉ text.toList)
    ⟨fun h => ⟨h.1, h.2.1, h.2.2⟩, fun h => ⟨h.comma_not_mem, h.quote_not_mem, h.newline_not_mem⟩⟩

namespace Layout

variable {l : Layout}

/-- An entity whose name is plain, and so is the group that it is declared in, if there is a table of
groups. -/
structure IsPlainEntity (l : Layout) (entity : String) : Prop where
  /-- The name is plain. -/
  name : IsPlain entity
  /-- The group is plain. -/
  group : l.parents.isEmpty = false → IsPlain (l.groupOf entity)

instance (l : Layout) (entity : String) : Decidable (l.IsPlainEntity entity) :=
  decidable_of_iff (IsPlain entity ∧ (l.parents.isEmpty = false → IsPlain (l.groupOf entity)))
    ⟨fun h => ⟨h.1, h.2⟩, fun h => ⟨h.name, h.group⟩⟩

/-- A mark that is in neither the name nor the group is not in the declaration. -/
theorem IsPlainEntity.not_mem_declared {entity : String} (h : l.IsPlainEntity entity) {c : Char}
    (hc : c ∈ [',', '\n']) : c ∉ (l.declared entity).toList := by
  simp only [List.mem_cons, List.not_mem_nil, or_false] at hc
  have hname : c ∉ entity.toList := by
    rcases hc with rfl | rfl
    exacts [h.name.comma_not_mem, h.name.newline_not_mem]
  unfold declared
  by_cases hparents : l.parents.isEmpty
  · rwa [if_pos hparents]
  · have hplain := h.group (Bool.eq_false_iff.2 hparents)
    have hgroup : c ∉ (l.groupOf entity).toList := by
      rcases hc with rfl | rfl
      exacts [hplain.comma_not_mem, hplain.newline_not_mem]
    rw [if_neg hparents]
    rcases hc with rfl | rfl <;> simp [quote, hname, hgroup]

/-- The name can be read off a declaration: it is all, or what stands in the first quotes. -/
theorem declared_injective {entity other : String} (h : IsPlain entity) (hother : IsPlain other)
    (heq : l.declared entity = l.declared other) : entity = other := by
  unfold declared at heq
  by_cases hparents : l.parents.isEmpty
  · rwa [if_pos hparents, if_pos hparents] at heq
  · rw [if_neg hparents, if_neg hparents] at heq
    have hchars := congrArg String.toList heq
    simp only [quote, String.toList_append] at hchars
    have hcut := Text.cut_unique h.quote_not_mem hother.quote_not_mem (by simpa using hchars)
    exact String.toList_inj.1 hcut.1

/-- A run of plain entities. -/
structure IsPlainRun (l : Layout) (r : Run) : Prop where
  /-- There is one. -/
  ne_nil : r.names ≠ []
  /-- They are all plain. -/
  plain : ∀ name ∈ r.names, l.IsPlainEntity name

theorem isPlainRun_of_mem_runs {c : Cast} (h : ∀ name ∈ c.names, l.IsPlainEntity name) :
    ∀ r ∈ c.runs, l.IsPlainRun r := by
  intro r hr
  refine ⟨c.ne_nil_of_mem_runs r hr, fun name hname => h name ?_⟩
  rw [← c.flatMap_names_runs]
  exact List.mem_flatMap.2 ⟨r, hr, hname⟩

/-- The declarations of a run, without the keyword in front of them. -/
def runText (l : Layout) (r : Run) : List Char :=
  Text.join [',', ' '] (r.names.map fun name => (l.declared name).toList)

theorem toList_runLine (l : Layout) (r : Run) :
    (l.runLine r).toList = (keyword r.dynamic).toList ++ ':' :: ' ' :: (l.runText r ++ ['\n']) := by
  have hpieces : (r.names.map l.declared).map String.toList =
      r.names.map fun name => (l.declared name).toList := by
    rw [List.map_map]
    rfl
  simp [runLine, runText, Text.joinStrings, hpieces]

/-- The declarations of a run stand on one line. -/
theorem IsPlainRun.newline_not_mem {r : Run} (h : l.IsPlainRun r) : '\n' ∉ l.runText r := by
  intro hmem
  rcases Text.mem_of_mem_join hmem with hsep | ⟨piece, hpiece, hc⟩
  · simp at hsep
  · obtain ⟨name, hname, rfl⟩ := List.mem_map.1 hpiece
    exact (h.plain name hname).not_mem_declared (by simp) hc

/-- The names of a run can be read off its declarations. -/
theorem runText_injective {r q : Run} (hr : l.IsPlainRun r) (hq : l.IsPlainRun q)
    (h : l.runText r = l.runText q) : r.names = q.names := by
  have hcomma : ∀ {r : Run}, l.IsPlainRun r →
      ∀ piece ∈ r.names.map fun name => (l.declared name).toList, ',' ∉ piece := by
    intro r hr piece hpiece
    obtain ⟨name, hname, rfl⟩ := List.mem_map.1 hpiece
    exact (hr.plain name hname).not_mem_declared (by simp)
  have hpieces := Text.join_injective (hcomma hr) (hcomma hq) (by simpa using hr.ne_nil)
    (by simpa using hq.ne_nil) h
  -- each declaration tells its name
  refine List.ext_getElem (by simpa using congrArg List.length hpieces) fun i hi hi' => ?_
  have hone : l.declared r.names[i] = l.declared q.names[i] := by
    have hat := congrArg (fun pieces => pieces[i]?) hpieces
    simpa [hi, hi', String.toList_inj] using hat
  exact declared_injective (hr.plain _ (List.getElem_mem hi)).name (hq.plain _ (List.getElem_mem hi')).name hone

/-- The lines that declare some runs. -/
def runLines (l : Layout) (rs : List Run) : List Char := rs.flatMap fun r => (l.runLine r).toList

theorem runLines_cons (l : Layout) (r : Run) (rs : List Run) :
    l.runLines (r :: rs) = (keyword r.dynamic).toList ++ ':' :: ' ' :: (l.runText r ++ '\n' :: l.runLines rs) := by
  simp [runLines, toList_runLine]

/-- Neither a keyword nor an empty line begins as a line that declares groups. -/
theorem head?_runLines_ne (l : Layout) (rs : List Run) (rest : List Char) :
    (l.runLines rs ++ '\n' :: rest).head? ≠ some 'c' := by
  cases rs with
  | nil => simp [runLines]
  | cons r rs =>
    rw [runLines_cons]
    cases r.dynamic <;> simp [keyword]

/-- **Lines of runs up to an empty line**: the runs and what stands behind that line can be read off. -/
theorem runLines_injective {rs qs : List Run} (hrs : ∀ r ∈ rs, l.IsPlainRun r)
    (hqs : ∀ q ∈ qs, l.IsPlainRun q) {rest after : List Char}
    (h : l.runLines rs ++ '\n' :: rest = l.runLines qs ++ '\n' :: after) : rs = qs ∧ rest = after := by
  -- a keyword begins with a letter, so no line of a run is taken for the empty line
  have hkeyword : ∀ (r : Run) (rs : List Run) (more rest : List Char),
      l.runLines (r :: rs) ++ more ≠ '\n' :: rest := by
    intro r rs more rest
    rw [runLines_cons]
    cases r.dynamic <;> simp [keyword]
  induction rs generalizing qs with
  | nil =>
    cases qs with
    | nil => exact ⟨rfl, by simpa [runLines] using h⟩
    | cons q qs => exact absurd h.symm (hkeyword q qs _ _)
  | cons r rs ih =>
    cases qs with
    | nil => exact absurd h (hkeyword r rs _ _)
    | cons q qs =>
      rw [List.forall_mem_cons] at hrs hqs
      obtain ⟨hr, hrs⟩ := hrs
      obtain ⟨hq, hqs⟩ := hqs
      obtain ⟨dynamic, names⟩ := r
      obtain ⟨dynamic', names'⟩ := q
      simp only [runLines_cons, List.append_assoc, List.cons_append] at h
      -- the first letter tells the keyword, and the end of the line the declarations
      have hdynamic : dynamic = dynamic' := by
        cases dynamic <;> cases dynamic' <;> simp [keyword] at h ⊢
      subst hdynamic
      have htexts := List.append_cancel_left h
      simp only [List.cons.injEq, true_and] at htexts
      obtain ⟨htext, hmore⟩ := Text.cut_unique hr.newline_not_mem hq.newline_not_mem htexts
      have hnames : names = names' := runText_injective hr hq htext
      obtain ⟨rfl, hrest⟩ := ih hrs hqs hmore
      exact ⟨by rw [hnames], hrest⟩

/-- The lines that create some entities. -/
def orphanLines (l : Layout) (os : List String) : List Char := os.flatMap fun o => (l.orphanLine o).toList

theorem orphanLines_cons (l : Layout) (o : String) (os : List String) :
    l.orphanLines (o :: os) =
      (l.format.indent ++ "create ").toList ++ (o.toList ++ '\n' :: l.orphanLines os) := by
  simp [orphanLines, orphanLine]

/-- The entities can be read off the lines that create them, whatever the indentation is. -/
theorem orphanLines_injective {os ps : List String} (hos : ∀ o ∈ os, '\n' ∉ o.toList)
    (hps : ∀ p ∈ ps, '\n' ∉ p.toList) (h : l.orphanLines os = l.orphanLines ps) : os = ps := by
  induction os generalizing ps with
  | nil =>
    cases ps with
    | nil => rfl
    | cons p ps => simp [orphanLines, orphanLine] at h
  | cons o os ih =>
    cases ps with
    | nil => simp [orphanLines, orphanLine] at h
    | cons p ps =>
      rw [List.forall_mem_cons] at hos hps
      obtain ⟨ho, hos⟩ := hos
      obtain ⟨hp, hps⟩ := hps
      rw [orphanLines_cons, orphanLines_cons] at h
      obtain ⟨hname, hmore⟩ := Text.cut_unique ho hp (List.append_cancel_left h)
      rw [String.toList_inj.1 hname, ih hos hps hmore]

/-- The lines for groups can be read off where no other line like them follows. -/
theorem componentLines_injective {a b : Bool} {rest after : List Char} (hrest : rest.head? ≠ some 'c')
    (hafter : after.head? ≠ some 'c')
    (h : (l.componentLines a).toList ++ rest = (l.componentLines b).toList ++ after) :
    (l.parents.isEmpty = false → a = b) ∧ rest = after := by
  unfold componentLines at h
  by_cases hparents : l.parents.isEmpty
  · rw [if_pos hparents, if_pos hparents] at h
    refine ⟨fun hnone => ?_, by simpa using h⟩
    rw [hparents] at hnone
    cases hnone
  · rw [if_neg hparents, if_neg hparents] at h
    simp only [String.toList_append, List.append_assoc, List.append_cancel_left_eq] at h
    -- the second line is there in both headers or in neither
    cases a <;> cases b
    · exact ⟨fun _ => rfl, by simpa using h⟩
    · exact absurd (by simp [show rest = _ from by simpa using h]) hrest
    · exact absurd (by simp [show after = _ from by simpa using h.symm]) hafter
    · exact ⟨fun _ => rfl, by simpa using h⟩

/-! ## Headers -/

/-- The opening of the diagram begins with an empty line. -/
theorem exists_opening (l : Layout) : ∃ title, l.opening.toList = '\n' :: title := by
  unfold opening
  cases l.format.theme <;> exact ⟨_, by simp; rfl⟩

theorem toList_header (l : Layout) (t : ParsedTrace) :
    (l.header t).toList = l.includes.toList ++ ((l.componentLines t.usesDefaultGroup).toList ++
      (l.runLines t.cast.runs ++ (l.opening.toList ++ l.orphanLines t.cast.orphans))) := by
  simp [header, runLines, orphanLines, List.flatMap_map]

end Layout

/-- **A header tells the cast.** Whatever the title, the indentation, the theme and the groups are: of two
traces whose entities, and the groups that they are declared in, have no comma, double quote or newline in
them, the headers are equal exactly if the same entities are declared in the same order and with the same
keywords, the same ones are orphans, and, where there is a table of groups, both or neither fall back on the
default group. -/
theorem header_eq_iff (l : Layout) {t u : ParsedTrace} (ht : ∀ name ∈ t.cast.names, l.IsPlainEntity name)
    (hu : ∀ name ∈ u.cast.names, l.IsPlainEntity name) :
    l.header t = l.header u ↔
      t.cast.classes = u.cast.classes ∧ (∀ name, name ∈ t.cast.orphans ↔ name ∈ u.cast.orphans) ∧
      (l.parents.isEmpty = false → t.usesDefaultGroup = u.usesDefaultGroup) := by
  constructor
  · intro h
    have hchars := congrArg String.toList h
    obtain ⟨title, htitle⟩ := l.exists_opening
    rw [Layout.toList_header, Layout.toList_header, htitle, List.append_cancel_left_eq] at hchars
    -- the parts of the header are read off one by one
    obtain ⟨hflag, hdeclared⟩ := Layout.componentLines_injective (l.head?_runLines_ne _ _)
      (l.head?_runLines_ne _ _) hchars
    obtain ⟨hruns, hopened⟩ := Layout.runLines_injective (Layout.isPlainRun_of_mem_runs ht)
      (Layout.isPlainRun_of_mem_runs hu) hdeclared
    have horphans : t.cast.orphans = u.cast.orphans := by
      have hplain : ∀ {c : Cast}, (∀ name ∈ c.names, l.IsPlainEntity name) →
          ∀ o ∈ c.orphans, '\n' ∉ o.toList := fun hc o ho =>
        (hc o (Cast.mem_names_of_mem_orphans ho)).name.newline_not_mem
      exact Layout.orphanLines_injective (hplain ht) (hplain hu) (List.append_cancel_left hopened)
    refine ⟨(Cast.runs_eq_iff _ _).1 hruns, fun name => by rw [horphans], hflag⟩
  · rintro ⟨hclasses, horphans, hflag⟩
    have hcast : t.cast = u.cast := Cast.ext_classes hclasses horphans
    have hgroups : l.componentLines t.usesDefaultGroup = l.componentLines u.usesDefaultGroup := by
      by_cases hparents : l.parents.isEmpty
      · rw [Layout.componentLines, Layout.componentLines, if_pos hparents, if_pos hparents]
      · rw [hflag (Bool.eq_false_iff.2 hparents)]
    rw [Layout.header, Layout.header, hgroups, hcast]

/-- A client, and a session of which one thing is known. -/
def sessionTrace (hint : Lifetime) : ParsedTrace where
  cast := (({} : Cast).refer "Client" .any).refer "Session" hint

/-- A layout with a table of groups. -/
def groupedLayout : Layout where
  wording := ⟨⟨∅⟩⟩
  format := {}
  parents := Dict.ofList [("Client", "Frontend"), ("Session", "Backend")]

/-- A session that is created and one that is deleted are declared alike, and the headers differ. -/
theorem header_created_ne_deleted :
    (∀ name ∈ (sessionTrace .created).cast.names, groupedLayout.IsPlainEntity name) ∧
    (∀ name ∈ (sessionTrace .deleted).cast.names, groupedLayout.IsPlainEntity name) ∧
    (sessionTrace .created).cast.classes = (sessionTrace .deleted).cast.classes ∧
    groupedLayout.header (sessionTrace .created) ≠ groupedLayout.header (sessionTrace .deleted) := by
  have hcreated : ∀ name ∈ (sessionTrace .created).cast.names, groupedLayout.IsPlainEntity name := by
    decide
  have hdeleted : ∀ name ∈ (sessionTrace .deleted).cast.names, groupedLayout.IsPlainEntity name := by
    decide
  refine ⟨hcreated, hdeleted, by decide, fun heq => ?_⟩
  obtain ⟨-, horphans, -⟩ := (header_eq_iff groupedLayout hcreated hdeleted).1 heq
  exact absurd ((horphans "Session").2 (by decide)) (by decide)

/-- A comma in a name can be mistaken for one between two names. -/
example : ({ groupedLayout with parents := ∅ } : Layout).header { cast := ({} : Cast).refer "A, B" .any } =
    ({ groupedLayout with parents := ∅ } : Layout).header
      { cast := (({} : Cast).refer "A" .any).refer "B" .any } := by decide

end TraceDiagram
