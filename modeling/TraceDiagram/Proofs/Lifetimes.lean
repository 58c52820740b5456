import TraceDiagram.Proofs.Compiling
import TraceDiagram.Proofs.Declarations
import TraceDiagram.Proofs.Default.Document

/-! # How long entities exist

Entities come and go in the body of a document, and the header creates those that go without having come.

* **`Statement.lifeEvent?`** the creation or deletion that a statement says; **`ParsedTrace.bodyEvents`** those
  of a trace, **`ParsedTrace.documentEvents`** those of its document, with the header's in front.
* **`ParsedTrace.Classified`** the invariant of reading: what the cast knows about an entity is the first
  event of it. **`Classified.store`** is its step lemma and **`classified_after`** its run lemma.
* **`orphans_eq_filter`** the entities that the header creates are those that are deleted first.
* **`ParsedTrace.TellsLifetimes`** what the lines of a document tell about that; **`lifetimes_of_compile`** every
  document is written with such lines. -/

namespace TraceDiagram

/-! ## Events -/

/-- An entity comes or goes. -/
inductive LifeEvent where
  /-- It is created. -/
  | creation (name : String)
  /-- It is deleted. -/
  | deletion (name : String)
  deriving DecidableEq, Repr

namespace LifeEvent

/-- The entity. -/
def name : LifeEvent → String
  | .creation name | .deletion name => name

/-- What the event tells about how long the entity exists. -/
def lifetime : LifeEvent → Lifetime
  | .creation _ => .created
  | .deletion _ => .deleted

theorem eq_deletion_iff (e : LifeEvent) (name : String) :
    e = .deletion name ↔ e.name = name ∧ e.lifetime = .deleted := by
  cases e <;> simp [LifeEvent.name, lifetime]

theorem lifetime_ne_any (e : LifeEvent) : e.lifetime ≠ .any := by cases e <;> simp [lifetime]

end LifeEvent

/-- The first event of an entity among some events. -/
def firstEvent? (name : String) (events : List LifeEvent) : Option LifeEvent :=
  events.find? fun e => e.name = name

theorem firstEvent?_append (name : String) (events others : List LifeEvent) :
    firstEvent? name (events ++ others) = (firstEvent? name events).or (firstEvent? name others) :=
  List.find?_append

theorem name_of_firstEvent? {name : String} {events : List LifeEvent} {e : LifeEvent}
    (h : firstEvent? name events = some e) : e.name = name := by
  simpa using List.find?_some h

/-- What the first event of an entity tells about it. -/
def firstLifetime (name : String) (events : List LifeEvent) : Lifetime :=
  ((firstEvent? name events).map LifeEvent.lifetime).getD .any

theorem firstLifetime_eq_deleted_iff (name : String) (events : List LifeEvent) :
    firstLifetime name events = .deleted ↔ firstEvent? name events = some (.deletion name) := by
  rw [firstLifetime]
  cases h : firstEvent? name events with
  | none => simp
  | some e => simp [e.eq_deletion_iff, name_of_firstEvent? h]

/-- Something is known of an entity if any event tells of it. -/
theorem firstLifetime_ne_any_iff (name : String) (events : List LifeEvent) :
    firstLifetime name events ≠ .any ↔ ∃ e ∈ events, e.name = name := by
  have hsome : (∃ e ∈ events, e.name = name) ↔ (firstEvent? name events).isSome = true := by
    simp [firstEvent?, List.find?_isSome]
  rw [hsome, firstLifetime]
  cases firstEvent? name events with
  | none => simp
  | some e => simp [e.lifetime_ne_any]

/-- Later events tell about an entity what earlier ones do not. -/
theorem firstLifetime_append (name : String) (events others : List LifeEvent) :
    firstLifetime name (events ++ others) =
      (firstLifetime name events).merge (firstLifetime name others) := by
  simp only [firstLifetime, firstEvent?_append]
  cases firstEvent? name events with
  | none => rfl
  | some e => cases e <;> rfl

namespace Statement

/-- The event that a statement says, if it creates or deletes an entity. -/
def lifeEvent? (s : Statement) : Option LifeEvent :=
  match s.kind with
  | .create => (s.name? "created").map .creation
  | .delete => (s.name? "deleted").map .deletion
  | _ => none

end Statement

namespace ParsedTrace

/-- The events that the body of a document tells. -/
def bodyEvents (t : ParsedTrace) : List LifeEvent := t.statements.filterMap Statement.lifeEvent?

/-- The events that a document tells: the creations of its header, then the events of its body. -/
def documentEvents (t : ParsedTrace) (created : List String) : List LifeEvent :=
  created.map .creation ++ t.bodyEvents

end ParsedTrace

/-! ## What references tell -/

/-- The event that a reference tells, if it tells any. -/
def LifeEvent.ofReference? : String × Lifetime → Option LifeEvent
  | (_, .any) => none
  | (name, .created) => some (.creation name)
  | (name, .deleted) => some (.deletion name)

namespace Statement

/-- A statement says the event that its references tell. -/
theorem filterMap_references (s : Statement) :
    s.references.filterMap LifeEvent.ofReference? = s.lifeEvent?.toList := by
  rw [references_eq, lifeEvent?]
  -- only the kinds that create and delete have a key which tells an event
  cases s.kind with
  | create =>
    cases hcreator : s.name? "creator" <;> cases hcreated : s.name? "created" <;>
      simp [StatementKind.entityKeys, LifeEvent.ofReference?, List.filterMap_cons, hcreator, hcreated]
  | delete =>
    cases hdeletor : s.name? "deletor" <;> cases hdeleted : s.name? "deleted" <;>
      simp [StatementKind.entityKeys, LifeEvent.ofReference?, List.filterMap_cons, hdeletor, hdeleted]
  | _ => simp [StatementKind.entityKeys, LifeEvent.ofReference?, List.filterMap_filterMap]

end Statement

/-- The first event that references tell of an entity is their first hint. -/
theorem firstLifetime_references (name : String) (refs : List (String × Lifetime)) :
    firstLifetime name (refs.filterMap LifeEvent.ofReference?) = toldOf name refs := by
  induction refs with
  | nil => rfl
  | cons ref refs ih =>
    have hone : firstLifetime name (LifeEvent.ofReference? ref).toList =
        if ref.1 = name then ref.2 else .any := by
      obtain ⟨other, hint⟩ := ref
      by_cases h : other = name
      · cases hint <;> simp [LifeEvent.ofReference?, firstLifetime, firstEvent?, LifeEvent.name,
          LifeEvent.lifetime, h]
      · cases hint <;> simp [LifeEvent.ofReference?, firstLifetime, firstEvent?, LifeEvent.name, h]
    have hsplit : (ref :: refs).filterMap LifeEvent.ofReference? =
        (LifeEvent.ofReference? ref).toList ++ refs.filterMap LifeEvent.ofReference? := by
      rw [List.filterMap_cons]
      cases LifeEvent.ofReference? ref <;> rfl
    rw [hsplit, firstLifetime_append, hone, ih, toldOf_cons]

/-- Taking note of references: what is known of an entity already stays, and else the first event that they
tell of it counts. -/
theorem ParsedTrace.lifetime_foldl_refer (t : ParsedTrace) (parents : Dict String String)
    (refs : List (String × Lifetime)) (name : String) :
    ((refs.foldl (refer · parents) t).cast.lifetime? name).getD .any =
      ((t.cast.lifetime? name).getD .any).merge
        (firstLifetime name (refs.filterMap LifeEvent.ofReference?)) := by
  rw [cast_foldl_refer, Cast.lifetime?_referAll, firstLifetime_references]
  by_cases hmem : name ∈ refs.map Prod.fst
  · rw [if_pos hmem, Option.getD_some]
  · rw [if_neg hmem, toldOf_eq_any_of_not_mem hmem, Lifetime.merge_any]

/-! ## The invariant -/

namespace ParsedTrace

/-- What the cast knows about an entity is what the first event of it tells. -/
def Classified (t : ParsedTrace) : Prop :=
  ∀ name, (t.cast.lifetime? name).getD .any = firstLifetime name t.bodyEvents

/-- **Step lemma**: storing a statement keeps the cast in step with the events. -/
theorem Classified.store {t : ParsedTrace} (h : t.Classified) (parents : Dict String String)
    (s : Statement) : (t.store parents s).Classified := by
  intro name
  have hevents : (t.store parents s).bodyEvents = t.bodyEvents ++ s.lifeEvent?.toList := by
    rw [bodyEvents, statements_store, List.filterMap_append, bodyEvents]
    cases hs : s.lifeEvent? <;> simp [hs]
  rw [hevents, firstLifetime_append, ← h name, ← s.filterMap_references]
  exact lifetime_foldl_refer t parents s.references name

end ParsedTrace

/-- **Run lemma**: after any lines, what the cast knows about an entity is what the first event of it
tells. -/
theorem TraceReader.classified_after (r : TraceReader) (lines : List String) :
    (r.after lines).parsed.Classified :=
  r.parsed_induction (P := ParsedTrace.Classified) (fun _ => rfl) (fun _ s h => h.store r.parents s)
    lines

/-! ## Declarations -/

namespace Cast

/-- An entity is declared with a keyword if it is in a run with that keyword. -/
def Declares (c : Cast) (dynamic : Bool) (name : String) : Prop :=
  ∃ run ∈ c.runs, run.dynamic = dynamic ∧ name ∈ run.names

theorem declares_iff (c : Cast) (dynamic : Bool) (name : String) :
    c.Declares dynamic name ↔ ∃ l, c.lifetime? name = some l ∧ l.isDynamic = dynamic := by
  have hruns : c.Declares dynamic name ↔ (name, dynamic) ∈ c.runs.flatMap Run.declarations := by
    simp only [Declares, Run.declarations, List.mem_flatMap, List.mem_map, Prod.mk.injEq]
    constructor
    · rintro ⟨run, hrun, rfl, hname⟩
      exact ⟨run, hrun, name, hname, rfl, rfl⟩
    · rintro ⟨run, hrun, _, hname, rfl, rfl⟩
      exact ⟨run, hrun, rfl, hname⟩
  rw [hruns, runs, flatMap_declarations_runsOf, List.mem_map]
  constructor
  · rintro ⟨⟨other, l⟩, hmem, heq⟩
    obtain ⟨rfl, rfl⟩ := Prod.mk.inj heq
    exact ⟨l, Dict.get?_of_mem_entries hmem, rfl⟩
  · rintro ⟨l, hl, rfl⟩
    exact ⟨(name, l), Dict.mem_entries_of_get? hl, rfl⟩

/-- The lines with one of the two words are those of the runs with one of the two keywords. -/
theorem exists_line_iff (c : Cast) {word : String} {dynamic : Bool}
    (h : ∀ run : Run, run.line.keyword = word ↔ run.dynamic = dynamic) (name : String) :
    (∃ d ∈ c.runs.map Run.line, d.keyword = word ∧ name ∈ d.names) ↔ c.Declares dynamic name := by
  simp only [Declares, ← h, List.mem_map]
  constructor
  · rintro ⟨_, ⟨run, hrun, rfl⟩, hword, hname⟩
    exact ⟨run, hrun, hword, hname⟩
  · rintro ⟨run, hrun, hword, hname⟩
    exact ⟨run.line, ⟨run, hrun, rfl⟩, hword, hname⟩

/-- The members of a cast are those about which it knows something. -/
theorem mem_names_iff (c : Cast) (name : String) : name ∈ c.names ↔ ∃ l, c.lifetime? name = some l := by
  rw [names, Dict.mem_keys_iff_get?_ne_none, Option.ne_none_iff_exists']
  rfl

/-- The orphans are the members that are known to be deleted, in the order of the cast. -/
theorem orphans_eq_filter_names (c : Cast) :
    c.orphans = c.names.filter fun name => c.lifetime? name = some .deleted := by
  rw [orphans, names, Dict.keys, List.filter_map]
  congr 1
  refine List.filter_congr fun m hm => ?_
  have hm : c.lifetime? m.1 = some m.2 := Dict.get?_of_mem_entries hm
  simp [hm]

end Cast

/-! ## Documents -/

namespace ParsedTrace

/-- What a document of the trace tells about when entities come and go, if its header has some lines that declare
entities, and some that create them. -/
structure TellsLifetimes (t : ParsedTrace) (declarations : List DeclarationLine) (created : List String) :
    Prop where
  /-- The first that is told of an entity, if anything is, is that it is created. -/
  createdFirst : ∀ name e, firstEvent? name (t.documentEvents created) = some e → e = .creation name
  /-- The header creates the entities that the body deletes first, in the order of the cast. -/
  deletedFirst : created = t.cast.names.filter fun name => firstEvent? name t.bodyEvents = some (.deletion name)
  /-- It creates each of those that the body deletes first once, and no other. -/
  count_created : ∀ name, created.count name =
    if firstEvent? name t.bodyEvents = some (.deletion name) then 1 else 0
  /-- The lines declare each member of the cast, in order. -/
  declared : declarations.flatMap DeclarationLine.names = t.cast.names
  /-- There are two words for them, and a line without any entity is not written. -/
  keyword : ∀ d ∈ declarations, (d.keyword = "eternal" ∨ d.keyword = "dynamic") ∧ d.names ≠ []
  /-- An entity is declared to come or go if the document tells so. -/
  dynamic : ∀ name, (∃ d ∈ declarations, d.keyword = "dynamic" ∧ name ∈ d.names) ↔
    ∃ e ∈ t.documentEvents created, e.name = name
  /-- Any other member of the cast is declared to be there all the time. -/
  eternal : ∀ name, (∃ d ∈ declarations, d.keyword = "eternal" ∧ name ∈ d.names) ↔
    name ∈ t.cast.names ∧ ∀ e ∈ t.documentEvents created, e.name ≠ name

variable {t : ParsedTrace}

/-- An entity is known to be deleted if the body deletes it first. -/
theorem Classified.lifetime_eq_deleted_iff (h : t.Classified) (name : String) :
    t.cast.lifetime? name = some .deleted ↔ firstEvent? name t.bodyEvents = some (.deletion name) := by
  rw [← firstLifetime_eq_deleted_iff, ← h name]
  cases t.cast.lifetime? name <;> simp

/-- An entity is declared to come or go if the body tells so. -/
theorem Classified.declares_dynamic_iff (h : t.Classified) (name : String) :
    t.cast.Declares true name ↔ ∃ e ∈ t.bodyEvents, e.name = name := by
  rw [Cast.declares_iff, ← firstLifetime_ne_any_iff, ← h name]
  cases t.cast.lifetime? name with
  | none => simp
  | some l => cases l <;> simp [Lifetime.isDynamic]

/-- A member of the cast is declared in one of the two ways. -/
theorem declares_eternal_iff (t : ParsedTrace) (name : String) :
    t.cast.Declares false name ↔ name ∈ t.cast.names ∧ ¬t.cast.Declares true name := by
  simp only [Cast.declares_iff, Cast.mem_names_iff]
  cases t.cast.lifetime? name <;> simp

/-- The header creates the entities that the body deletes first. -/
theorem Classified.orphans_eq_filter (h : t.Classified) : t.cast.orphans =
    t.cast.names.filter fun name => firstEvent? name t.bodyEvents = some (.deletion name) := by
  rw [Cast.orphans_eq_filter_names]
  exact List.filter_congr fun name _ => by rw [decide_eq_decide, h.lifetime_eq_deleted_iff]

theorem Classified.mem_orphans_iff (h : t.Classified) (name : String) :
    name ∈ t.cast.orphans ↔ firstEvent? name t.bodyEvents = some (.deletion name) := by
  rw [Cast.mem_orphans_iff, h.lifetime_eq_deleted_iff]

/-- The header tells of an entity only what the body lacks. -/
theorem Classified.exists_documentEvent_iff (h : t.Classified) (name : String) :
    (∃ e ∈ t.documentEvents t.cast.orphans, e.name = name) ↔ ∃ e ∈ t.bodyEvents, e.name = name := by
  constructor
  · rintro ⟨e, he, rfl⟩
    rcases List.mem_append.1 he with he | he
    · obtain ⟨name, hname, rfl⟩ := List.mem_map.1 he
      exact ⟨.deletion name, List.mem_of_find?_eq_some ((h.mem_orphans_iff name).1 hname), rfl⟩
    · exact ⟨e, he, rfl⟩
  · rintro ⟨e, he, hname⟩
    exact ⟨e, List.mem_append_right _ he, hname⟩

/-- Whatever a document tells of an entity, it tells first that the entity is created. -/
theorem Classified.createdFirst (h : t.Classified) {name : String} {e : LifeEvent}
    (he : firstEvent? name (t.documentEvents t.cast.orphans) = some e) : e = .creation name := by
  rw [documentEvents, firstEvent?_append, Option.or_eq_some_iff] at he
  rcases he with he | ⟨hheader, hbody⟩
  · obtain ⟨other, -, rfl⟩ := List.mem_map.1 (List.mem_of_find?_eq_some he)
    rw [← name_of_firstEvent? he, LifeEvent.name]
  · obtain hname := name_of_firstEvent? hbody
    cases e with
    | creation other => rw [← hname, LifeEvent.name]
    | deletion other =>
      -- what the body deletes first is created in the header
      obtain rfl : other = name := hname
      have hmem : LifeEvent.creation other ∈ t.cast.orphans.map .creation :=
        List.mem_map_of_mem ((h.mem_orphans_iff other).2 hbody)
      have hname' : ¬decide ((LifeEvent.creation other).name = other) = true :=
        List.find?_eq_none.1 hheader _ hmem
      exact absurd (decide_eq_true rfl) hname'

/-- What the cast knows is all that a document has to tell about when its entities come and go. -/
theorem Classified.tellsLifetimes (h : t.Classified) :
    t.TellsLifetimes (t.cast.runs.map Run.line) t.cast.orphans where
  createdFirst _ _ he := h.createdFirst he
  deletedFirst := h.orphans_eq_filter
  count_created name := by
    have hnodup : t.cast.orphans.Nodup := by
      rw [h.orphans_eq_filter]
      exact t.cast.members.keys_nodup.filter _
    simp only [hnodup.count, h.mem_orphans_iff]
  declared := t.cast.flatMap_names_lines
  keyword _ := t.cast.of_mem_lines
  dynamic name := by
    rw [Cast.exists_line_iff _ Run.keyword_line_eq_dynamic, h.declares_dynamic_iff, h.exists_documentEvent_iff]
  eternal name := by
    rw [Cast.exists_line_iff _ Run.keyword_line_eq_eternal, declares_eternal_iff, h.declares_dynamic_iff,
      ← h.exists_documentEvent_iff]
    simp only [not_exists, not_and, ne_eq]

end ParsedTrace

/-- A piece of the body puts a statement into words: its text stands on an indented line, behind the heading if it has
one, and in front of its remark. -/
def Compiler.PutsIntoWords (c : Compiler) (s : Statement) (block : String) : Prop :=
  ∃ heading said remark, c.layout.heading s = .ok heading ∧ c.wording.statement s = .ok said ∧
    c.layout.remarkLine s = .ok remark ∧
    block = heading ++ (c.config.format.indent ++ said ++ "\n") ++ remark ++ "\n"

theorem Compiler.putsIntoWords_of_block {c : Compiler} {s : Statement} {block : String}
    (h : c.layout.block s = .ok block) : c.PutsIntoWords s block := by
  obtain ⟨heading, said, remark, hheading, hsaid, hremark, rfl⟩ := c.layout.exists_of_block_eq_ok h
  exact ⟨heading, said, remark, hheading, hsaid, hremark, rfl⟩

/-- **Entities come before they go.** For every configuration and every trace that has a document: the document is
written with lines that declare the cast, a line for each entity that the header creates, and a piece that puts each
statement into words, as `documentText` says; and in what these tell about an entity, its creation comes first, the
header creates those that the body deletes first, and those of which anything is told are declared to come and
go. -/
theorem lifetimes_of_compile {config : Config} {trace text : String}
    (h : (compile config trace).1 = .ok text) : ∃ c r blocks declarations created,
      Compiler.ofConfig config = .ok c ∧ TraceReader.ofConfig config = .ok r ∧
      let t := (r.read trace).1.parsed
      List.Forall₂ c.PutsIntoWords t.statements blocks ∧
      text = documentText config.format config.entities.parents t.usesDefaultGroup declarations created
        (String.join blocks) ∧
      t.TellsLifetimes declarations created := by
  obtain ⟨c, r, hc, hr, hdocument⟩ := exists_document_of_compile h
  obtain ⟨blocks, hblocks, hbody⟩ := c.layout.exists_blocks_of_document hdocument
  -- reading a text is reading its lines, so what holds after any lines holds here
  have hclassified := r.classified_after ((Text.lines trace.toList).map String.ofList)
  have hconfig := Compiler.config_of_ofConfig hc
  have htext : text = documentText config.format config.entities.parents (r.read trace).1.parsed.usesDefaultGroup
      ((r.read trace).1.parsed.cast.runs.map Run.line) (r.read trace).1.parsed.cast.orphans (String.join blocks) := by
    rw [hbody, Layout.header_append_footer, ← hconfig]
    rfl
  have hwords := hblocks.imp fun _ _ => Compiler.putsIntoWords_of_block
  exact ⟨c, r, blocks, _, _, hc, hr, hwords, htext, hclassified.tellsLifetimes⟩

/-- A trace that deletes an entity, creates it again and deletes it, and another one that deletes itself. -/
def restlessTrace : String :=
  "[1][M][m.c] deleted Cache\n[2][M][m.c] created Cache\n[3][M][m.c] deleted Cache\n[4][W][w.c] deleted W"

/-- The document of the trace creates both entities in its header. -/
theorem lifetimes_restlessTrace :
    (defaultReader.read restlessTrace).1.parsed.cast.orphans = ["Cache", "W"] ∧
    ∃ text, (compile {} restlessTrace).1 = .ok text ∧ ∃ c r blocks declarations created,
      Compiler.ofConfig {} = .ok c ∧ TraceReader.ofConfig {} = .ok r ∧
      let t := (r.read restlessTrace).1.parsed
      List.Forall₂ c.PutsIntoWords t.statements blocks ∧
      text = documentText ({} : Config).format ({} : Config).entities.parents t.usesDefaultGroup declarations created
        (String.join blocks) ∧
      t.TellsLifetimes declarations created := by
  obtain ⟨text, htext⟩ := exists_text_default restlessTrace
  exact ⟨by decide +kernel, text, htext, lifetimes_of_compile htext⟩

end TraceDiagram
