import TraceDiagram.Proofs.ConfigFiles

/-! # Partial configuration files

A file may give any choice of the settings. What it gives replaces the default as a whole, what it leaves out
keeps the default, and names that mean nothing are passed over.

* **`Field.only`**, **`Field.choose`** fields of which only the chosen ones are written; by **`Restores.only`**
  these are restored, and all others are left as they are.
* **`Config.pick`** the settings that are chosen, and the defaults for all others.
* **`Config.Gives`** the pairs of a file give the chosen settings and no others.
* **`readNamed_of_gives_pick`** such pairs are read as these settings, section by section, and
  **`readConfig_partial`** so are files.
* **`exists_partial_file`** there is such a file for every choice. -/

namespace TraceDiagram

open Toml

/-! ## Chosen fields -/

namespace Field

variable {σ τ α : Type}

/-- A field that is written only if it is chosen. -/
def only (f : Field σ) (chosen : Bool) : Field σ :=
  { f with write := fun s => if chosen then f.write s else none }

/-- Fields of which only the chosen ones are written. -/
def choose (chosen : String → Bool) (fields : List (Field σ)) : List (Field σ) :=
  fields.map fun f => f.only (chosen f.name)

/-- Which fields are written has no influence on how they are read. -/
theorem readNamed_choose (chosen : String → Bool) (fields : List (Field σ)) (pairs : List (String × Toml))
    (s : σ) : readNamed (choose chosen fields) pairs s = readNamed fields pairs s := by
  rw [choose, readNamed, List.foldlM_map]
  rfl

/-- **Step lemma**: a chosen field is restored, and any other is left as it is. -/
theorem Restores.only {f : Field σ} {s old : σ} {get : σ → α} {set : α → σ → σ}
    (h : f.Restores s old (set (get s) old)) (hold : set (get old) old = old) (chosen : Bool) :
    (f.only chosen).Restores s old (set (if chosen then get s else get old) old) := by
  cases chosen with
  | false => exact congrArg some hold.symm
  | true => exact h

end Field

namespace Config

open TraceDiagram.Field

/-! ## Choices of settings -/

section Sections

variable (chosen : String → Bool)

/-- The chosen settings of how lines are read, and the defaults for all others. -/
def Trace.pick (s : Config.Trace) : Config.Trace :=
  let d : Config.Trace := {}
  { linePattern := if chosen "line_regex" then s.linePattern else d.linePattern
    tracedEntity := if chosen "traced_entity" then s.tracedEntity else d.tracedEntity
    defaultHandler := if chosen "default_handler" then s.defaultHandler else d.defaultHandler
    scopeMarker := if chosen "scope_marker" then s.scopeMarker else d.scopeMarker
    mapping := if chosen "mapping" then s.mapping else d.mapping }

/-- The chosen patterns, and the defaults for all others. -/
def Patterns.pick (s : Config.Patterns) : Config.Patterns :=
  let d : Config.Patterns := {}
  { messageReceive := if chosen "message_receive" then s.messageReceive else d.messageReceive
    messageSend := if chosen "message_send" then s.messageSend else d.messageSend
    methodInvoke := if chosen "method_invoke" then s.methodInvoke else d.methodInvoke
    functionInvoke := if chosen "function_invoke" then s.functionInvoke else d.functionInvoke
    methodReturn := if chosen "method_return" then s.methodReturn else d.methodReturn
    create := if chosen "create" then s.create else d.create
    delete := if chosen "delete" then s.delete else d.delete
    timer := if chosen "timer" then s.timer else d.timer }

/-- The chosen templates, and the defaults for all others. -/
def Templates.pick (s : Config.Templates) : Config.Templates :=
  let d : Config.Templates := {}
  { message := if chosen "message" then s.message else d.message
    invoke := if chosen "invoke" then s.invoke else d.invoke
    methodReturn := if chosen "method_return" then s.methodReturn else d.methodReturn
    create := if chosen "create" then s.create else d.create
    delete := if chosen "delete" then s.delete else d.delete
    stateChange := if chosen "state_change" then s.stateChange else d.stateChange
    startTimer := if chosen "start_timer" then s.startTimer else d.startTimer
    stopTimer := if chosen "stop_timer" then s.stopTimer else d.stopTimer
    expiredTimer := if chosen "expired_timer" then s.expiredTimer else d.expiredTimer
    allocate := if chosen "allocate" then s.allocate else d.allocate
    free := if chosen "free" then s.free else d.free
    beginAction := if chosen "begin_action" then s.beginAction else d.beginAction
    endAction := if chosen "end_action" then s.endAction else d.endAction
    action := if chosen "action" then s.action else d.action
    param := if chosen "param" then s.param else d.param
    bookmark := if chosen "bookmark" then s.bookmark else d.bookmark
    remark := if chosen "remark" then s.remark else d.remark }

/-- The chosen settings of the format, and the defaults for all others. -/
def Format.pick (s : Config.Format) : Config.Format :=
  let d : Config.Format := {}
  { indent := if chosen "indent" then s.indent else d.indent
    attributeValueSeparator :=
      if chosen "attribute_value_separator" then s.attributeValueSeparator else d.attributeValueSeparator
    pairSeparator := if chosen "pair_separator" then s.pairSeparator else d.pairSeparator
    bookmarks := if chosen "bookmarks" then s.bookmarks else d.bookmarks
    theme := if chosen "theme" then s.theme else d.theme
    featureTitle := if chosen "feature_title" then s.featureTitle else d.featureTitle
    defaultGroup := if chosen "default_group" then s.defaultGroup else d.defaultGroup }

/-- The table of groups if it is chosen, and the default for it otherwise. -/
def Entities.pick (s : Config.Entities) : Config.Entities :=
  let d : Config.Entities := {}
  { parents := if chosen "parents" then s.parents else d.parents }

/-- The chosen places of files, and the defaults for all others. -/
def Output.pick (s : Config.Output) : Config.Output :=
  let d : Config.Output := {}
  { document := if chosen "document" then s.document else d.document
    projectFile := if chosen "project_file" then s.projectFile else d.projectFile }

/-- The chosen settings of how a diagram is drawn, and the defaults for all others. -/
def Renderer.pick (s : Config.Renderer) : Config.Renderer :=
  let d : Config.Renderer := {}
  { enabled := if chosen "enabled" then s.enabled else d.enabled
    executable := if chosen "executable" then s.executable else d.executable
    extensionsDir := if chosen "extensions_dir" then s.extensionsDir else d.extensionsDir
    args := if chosen "args" then s.args else d.args }

end Sections

/-- The chosen settings by section and name, and the defaults for all others. -/
def pick (chosen : String → String → Bool) (c : Config) : Config where
  trace := c.trace.pick (chosen "trace")
  patterns := c.patterns.pick (chosen "patterns")
  templates := c.templates.pick (chosen "templates")
  format := c.format.pick (chosen "format")
  entities := c.entities.pick (chosen "entities")
  output := c.output.pick (chosen "output")
  renderer := c.renderer.pick (chosen "renderer")

/-! ## Files with chosen settings -/

/-- What stands under the name of a section; a section that is left out is empty. -/
def sectionIn (pairs : List (String × Toml)) (name : String) : Toml := (pairs.lookup name).getD (.table [])

/-- A section gives the chosen ones of its fields, and it does not give the others. Whatever else it may hold is
left open. -/
def GivesSection {σ : Type} (pairs : List (String × Toml)) (name : String) (fields : List (Field σ))
    (chosen : String → Bool) (s : σ) : Prop :=
  ∃ inner, sectionIn pairs name = .table inner ∧ Field.Gives (choose chosen fields) s inner

/-- The same of the format, except that its bookmarks may be listed in any order, and also more than once. -/
def GivesFormat (pairs : List (String × Toml)) (chosen : String → Bool) (s : Config.Format) : Prop :=
  ∃ (inner : List (String × Toml)) (listed : List String), sectionIn pairs "format" = .table inner ∧
    (∀ u, u ∈ listed ↔ u ∈ s.bookmarks.items) ∧
    (inner.lookup "bookmarks" = if chosen "bookmarks" then some (.list (listed.map .text)) else none) ∧
    ∀ f ∈ formatFields, f.name ≠ "bookmarks" → inner.lookup f.name = (f.only (chosen f.name)).write s

/-- The pairs of a file give the chosen settings, by section and name, and no others. -/
structure Gives (c : Config) (pairs : List (String × Toml)) (chosen : String → String → Bool) : Prop where
  /-- They do so for how lines are read, -/
  trace : GivesSection pairs "trace" traceFields (chosen "trace") c.trace
  /-- for the patterns, -/
  patterns : GivesSection pairs "patterns" patternFields (chosen "patterns") c.patterns
  /-- for the templates, -/
  templates : GivesSection pairs "templates" templateFields (chosen "templates") c.templates
  /-- for the format, -/
  format : GivesFormat pairs (chosen "format") c.format
  /-- for the groups, -/
  entities : GivesSection pairs "entities" entityFields (chosen "entities") c.entities
  /-- for the places of files, -/
  output : GivesSection pairs "output" outputFields (chosen "output") c.output
  /-- and for how the diagram is drawn. -/
  renderer : GivesSection pairs "renderer" rendererFields (chosen "renderer") c.renderer

/-! ## Reading sections -/

section Sections

variable (chosen : String → Bool)

/-- The field for bookmarks, written as a given list. -/
def bookmarksListed (listed : List String) : Field Config.Format :=
  { texts "bookmarks" (·.bookmarks.items) (fun v s => { s with bookmarks := TextSet.ofList v }) with
    write := fun _ => some (.list (listed.map .text)) }

/-- The fields of the format with the bookmarks so written, of which only the chosen ones are. -/
def formatFieldsListing (listed : List String) : List (Field Config.Format) :=
  (choose chosen formatFields).set 3 ((bookmarksListed listed).only (chosen "bookmarks"))

/-- Listed bookmarks are read, and left as they are if they are not chosen. -/
theorem restores_listed (listed : List String) (s old : Config.Format) (hold : old.bookmarks = ∅) :
    ((bookmarksListed listed).only (chosen "bookmarks")).Restores s old
      { old with bookmarks := TextSet.ofList (if chosen "bookmarks" then listed else []) } := by
  cases chosen "bookmarks" with
  | false =>
    obtain ⟨_, _, _, _, _, _, _⟩ := old
    obtain rfl := hold
    rfl
  | true =>
    change ((listed.map Toml.text).mapM text?).map _ = _
    rw [mapM_text?, Option.map_some]
    rfl

theorem restores_pick_trace (s : Config.Trace) :
    RestoresAll s (choose chosen traceFields) {} (s.pick chosen) :=
  .cons ((restores_text _ _ _ _ _).only rfl _) <| .cons ((restores_text _ _ _ _ _).only rfl _) <|
  .cons ((restores_text _ _ _ _ _).only rfl _) <| .cons ((restores_text _ _ _ _ _).only rfl _) <|
  .cons ((restores_textTable _ _ _ _ _).only rfl _) .nil

theorem restores_pick_patterns (s : Config.Patterns) :
    RestoresAll s (choose chosen patternFields) {} (s.pick chosen) :=
  .cons ((restores_text _ _ _ _ _).only rfl _) <| .cons ((restores_text _ _ _ _ _).only rfl _) <|
  .cons ((restores_text _ _ _ _ _).only rfl _) <| .cons ((restores_text _ _ _ _ _).only rfl _) <|
  .cons ((restores_text _ _ _ _ _).only rfl _) <| .cons ((restores_text _ _ _ _ _).only rfl _) <|
  .cons ((restores_text _ _ _ _ _).only rfl _) <| .cons ((restores_text _ _ _ _ _).only rfl _) .nil

theorem restores_pick_templates (s : Config.Templates) :
    RestoresAll s (choose chosen templateFields) {} (s.pick chosen) :=
  .cons ((restores_text _ _ _ _ _).only rfl _) <| .cons ((restores_text _ _ _ _ _).only rfl _) <|
  .cons ((restores_text _ _ _ _ _).only rfl _) <| .cons ((restores_text _ _ _ _ _).only rfl _) <|
  .cons ((restores_text _ _ _ _ _).only rfl _) <| .cons ((restores_text _ _ _ _ _).only rfl _) <|
  .cons ((restores_text _ _ _ _ _).only rfl _) <| .cons ((restores_text _ _ _ _ _).only rfl _) <|
  .cons ((restores_text _ _ _ _ _).only rfl _) <| .cons ((restores_text _ _ _ _ _).only rfl _) <|
  .cons ((restores_text _ _ _ _ _).only rfl _) <| .cons ((restores_text _ _ _ _ _).only rfl _) <|
  .cons ((restores_text _ _ _ _ _).only rfl _) <| .cons ((restores_text _ _ _ _ _).only rfl _) <|
  .cons ((restores_text _ _ _ _ _).only rfl _) <| .cons ((restores_text _ _ _ _ _).only rfl _) <|
  .cons ((restores_text _ _ _ _ _).only rfl _) .nil

/-- The bookmarks may be listed in any order, and also more than once. -/
theorem restores_pick_format (s : Config.Format) {listed : List String}
    (hlisted : ∀ u, u ∈ listed ↔ u ∈ s.bookmarks.items) :
    RestoresAll s (formatFieldsListing chosen listed) {} (s.pick chosen) := by
  have h : RestoresAll s (formatFieldsListing chosen listed) {} { s.pick chosen with
      bookmarks := TextSet.ofList (if chosen "bookmarks" then listed else []) } :=
    .cons ((restores_text _ _ _ _ _).only rfl _) <| .cons ((restores_text _ _ _ _ _).only rfl _) <|
    .cons ((restores_text _ _ _ _ _).only rfl _) <| .cons (restores_listed chosen listed s _ rfl) <|
    .cons ((restores_optionalText _ _ _ _ _ rfl).only rfl _) <|
    .cons ((restores_text _ _ _ _ _).only rfl _) <| .cons ((restores_text _ _ _ _ _).only rfl _) .nil
  have hbookmarks : TextSet.ofList (if chosen "bookmarks" then listed else []) =
      (s.pick chosen).bookmarks := by
    rw [Format.pick]
    cases chosen "bookmarks" with
    | false => rfl
    | true => exact TextSet.ofList_eq_of_mem_iff hlisted
  rw [hbookmarks] at h
  exact h

theorem restores_pick_entities (s : Config.Entities) :
    RestoresAll s (choose chosen entityFields) {} (s.pick chosen) :=
  .cons ((restores_textTable _ _ _ _ _).only rfl _) .nil

theorem restores_pick_output (s : Config.Output) :
    RestoresAll s (choose chosen outputFields) {} (s.pick chosen) :=
  .cons ((restores_text _ _ _ _ _).only rfl _) <| .cons ((restores_text _ _ _ _ _).only rfl _) .nil

theorem restores_pick_renderer (s : Config.Renderer) :
    RestoresAll s (choose chosen rendererFields) {} (s.pick chosen) :=
  .cons ((restores_flag _ _ _ _ _).only rfl _) <|
  .cons ((restores_optionalText _ _ _ _ _ rfl).only rfl _) <|
  .cons ((restores_optionalText _ _ _ _ _ rfl).only rfl _) <|
  .cons ((restores_texts _ _ _ _ _).only rfl _) .nil

end Sections

/-! ## Reading files -/

section Files

variable {pairs inner : List (String × Toml)}

/-- Pairs without any of the names change nothing. -/
theorem readNamed_nil {σ : Type} (fields : List (Field σ)) (s : σ) : readNamed fields [] s = some s := by
  induction fields with
  | nil => rfl
  | cons f fields ih => exact ih

/-- A section is read from what stands under its name, or left as it is. -/
theorem readIf_section {σ : Type} {name : String} {fields : List (Field σ)} {get : Config → σ}
    {set : σ → Config → Config} {old : Config} {s : σ} (hsection : sectionIn pairs name = .table inner)
    (hold : set (get old) old = old) (hread : readNamed fields inner (get old) = some s) :
    (record name fields get set).readIf (pairs.lookup name) old = some (set s old) := by
  rw [sectionIn] at hsection
  cases hlookup : pairs.lookup name with
  | none =>
    obtain rfl : [] = inner := by simpa [hlookup] using hsection
    obtain rfl : get old = s := by simpa [readNamed_nil] using hread
    exact congrArg some hold.symm
  | some v =>
    obtain rfl : v = .table inner := by simpa [hlookup] using hsection
    change (readNamed fields inner (get old)).map (fun t => set t old) = _
    rw [hread, Option.map_some]

/-- A section that gives the chosen settings is read as these. -/
theorem readIf_of_givesSection {σ : Type} {name : String} {fields : List (Field σ)} {chosen : String → Bool}
    {get : Config → σ} {set : σ → Config → Config} {old : Config} {s new : σ}
    (hgives : GivesSection pairs name fields chosen s)
    (hrestores : RestoresAll s (choose chosen fields) (get old) new) (hold : set (get old) old = old) :
    (record name fields get set).readIf (pairs.lookup name) old = some (set new old) := by
  obtain ⟨inner, hsection, hfields⟩ := hgives
  have hread := readNamed_of_gives hrestores hfields
  rw [readNamed_choose] at hread
  exact readIf_section hsection hold hread

/-- Listed bookmarks and the other settings of the format are what the fields that list them ask for. -/
theorem gives_formatFieldsListing {chosen : String → Bool} {listed : List String} {s : Config.Format}
    (hbookmarks : inner.lookup "bookmarks" =
      if chosen "bookmarks" then some (.list (listed.map .text)) else none)
    (hothers : ∀ f ∈ formatFields, f.name ≠ "bookmarks" →
      inner.lookup f.name = (f.only (chosen f.name)).write s) :
    Field.Gives (formatFieldsListing chosen listed) s inner := by
  simp only [formatFields, List.forall_mem_cons] at hothers
  obtain ⟨hindent, hvalue, hpair, -, htheme, htitle, hgroup, -⟩ := hothers
  simp only [Field.Gives, formatFieldsListing, choose, formatFields, List.map_cons, List.map_nil,
    List.set_cons_succ, List.set_cons_zero, List.forall_mem_cons]
  exact ⟨hindent (by decide), hvalue (by decide), hpair (by decide), hbookmarks, htheme (by decide),
    htitle (by decide), hgroup (by decide), List.forall_mem_nil _⟩

/-- The format is read as the chosen settings. -/
theorem readIf_of_givesFormat {chosen : String → Bool} {s : Config.Format}
    (hgives : GivesFormat pairs chosen s) {old : Config} (hold : old.format = {}) :
    (record "format" formatFields (·.format) fun v s => { s with format := v }).readIf
      (pairs.lookup "format") old = some { old with format := s.pick chosen } := by
  obtain ⟨inner, listed, hsection, hlisted, hbookmarks, hothers⟩ := hgives
  have hread := readNamed_of_gives (restores_pick_format chosen s hlisted)
    (gives_formatFieldsListing hbookmarks hothers)
  -- how the bookmarks are listed makes a difference only to how the fields are written
  have hnames : readNamed (formatFieldsListing chosen listed) inner {} = readNamed formatFields inner {} := rfl
  rw [hnames, ← hold] at hread
  exact readIf_section hsection rfl hread

/-- **Pairs that give the chosen settings are read as these**, with the defaults for all others. -/
theorem readNamed_of_gives_pick {chosen : String → String → Bool} {c : Config} (h : c.Gives pairs chosen) :
    readNamed fields pairs {} = some (c.pick chosen) :=
  (readNamed_cons (readIf_of_givesSection h.trace (restores_pick_trace _ _) rfl)).trans <|
  (readNamed_cons (readIf_of_givesSection h.patterns (restores_pick_patterns _ _) rfl)).trans <|
  (readNamed_cons (readIf_of_givesSection h.templates (restores_pick_templates _ _) rfl)).trans <|
  (readNamed_cons (readIf_of_givesFormat h.format rfl)).trans <|
  (readNamed_cons (readIf_of_givesSection h.entities (restores_pick_entities _ _) rfl)).trans <|
  (readNamed_cons (readIf_of_givesSection h.output (restores_pick_output _ _) rfl)).trans <|
  (readNamed_cons (readIf_of_givesSection h.renderer (restores_pick_renderer _ _) rfl)).trans rfl

end Files

/-! ## Writing chosen settings -/

/-- The sections, each with its chosen fields. -/
def fieldsChosen (chosen : String → String → Bool) : List (Field Config) := [
  record "trace" (choose (chosen "trace") traceFields) (·.trace) fun v s => { s with trace := v },
  record "patterns" (choose (chosen "patterns") patternFields) (·.patterns) fun v s => { s with patterns := v },
  record "templates" (choose (chosen "templates") templateFields) (·.templates) fun v s =>
    { s with templates := v },
  record "format" (choose (chosen "format") formatFields) (·.format) fun v s => { s with format := v },
  record "entities" (choose (chosen "entities") entityFields) (·.entities) fun v s => { s with entities := v },
  record "output" (choose (chosen "output") outputFields) (·.output) fun v s => { s with output := v },
  record "renderer" (choose (chosen "renderer") rendererFields) (·.renderer) fun v s => { s with renderer := v }]

section Writing

variable {σ : Type} (chosen : String → Bool)

theorem map_name_choose (fields : List (Field σ)) :
    (choose chosen fields).map Field.name = fields.map Field.name := by
  rw [choose, List.map_map]
  rfl

/-- What is written of a choice gives it. -/
theorem gives_choose {fields : List (Field σ)} (hnodup : (fields.map Field.name).Nodup) (s : σ) :
    Field.Gives (choose chosen fields) s (writeAll (choose chosen fields) s) :=
  lookup_writeAll (by rwa [map_name_choose]) s

/-- A section under its name gives the choice that is written of it. -/
theorem givesSection_of_lookup {fields : List (Field σ)} (hnodup : (fields.map Field.name).Nodup)
    {pairs : List (String × Toml)} {name : String} {s : σ}
    (h : pairs.lookup name = some (.table (writeAll (choose chosen fields) s))) :
    GivesSection pairs name fields chosen s :=
  ⟨_, by rw [sectionIn, h, Option.getD_some], gives_choose chosen hnodup s⟩

/-- So does the format, whose bookmarks are listed in order. -/
theorem givesFormat_of_lookup {pairs : List (String × Toml)} {s : Config.Format}
    (h : pairs.lookup "format" = some (.table (writeAll (choose chosen formatFields) s))) :
    GivesFormat pairs chosen s := by
  have hgives : Field.Gives (choose chosen formatFields) s (writeAll (choose chosen formatFields) s) :=
    gives_choose chosen (by decide) s
  have hfield : ∀ f ∈ formatFields, (writeAll (choose chosen formatFields) s).lookup f.name =
      (f.only (chosen f.name)).write s := fun f hf => hgives _ (List.mem_map_of_mem hf)
  refine ⟨_, s.bookmarks.items, by rw [sectionIn, h, Option.getD_some], fun _ => Iff.rfl, ?_,
    fun f hf _ => hfield f hf⟩
  have hmem : texts "bookmarks" (fun s : Config.Format => s.bookmarks.items)
      (fun v s => { s with bookmarks := TextSet.ofList v }) ∈ formatFields := by simp [formatFields]
  exact hfield _ hmem

/-- A section that is left out gives nothing. -/
theorem givesSection_nothing {pairs : List (String × Toml)} {name : String} {fields : List (Field σ)} {s : σ}
    (h : pairs.lookup name = none) (hchosen : ∀ field, chosen field = false) :
    GivesSection pairs name fields chosen s := by
  refine ⟨[], by rw [sectionIn, h, Option.getD_none], fun f hf => ?_⟩
  obtain ⟨g, -, rfl⟩ := List.mem_map.1 hf
  rw [List.lookup_nil, hchosen g.name]
  rfl

theorem isSetting_only {f : Field σ} (h : f.IsSetting) (b : Bool) : (f.only b).IsSetting := by
  intro s v hv
  cases b with
  | false => cases hv
  | true => exact h s v hv

theorem isTable_only {f : Field σ} {depth : Nat} (h : f.IsTable depth) (b : Bool) :
    (f.only b).IsTable depth := by
  intro s v hv
  cases b with
  | false => cases hv
  | true => exact h s v hv

/-- **Any choice of the fields of a section can be stored**, if values stand in front of tables. -/
theorem storable_choose (settings tables : List (Field σ))
    (hnodup : ((settings ++ tables).map Field.name).Nodup) (hsettings : ∀ f ∈ settings, f.IsSetting)
    (htables : ∀ f ∈ tables, f.IsTable 1) (s : σ) :
    Storable 2 (writeAll (choose chosen (settings ++ tables)) s) := by
  have hsplit : choose chosen (settings ++ tables) = choose chosen settings ++ choose chosen tables :=
    List.map_append
  rw [hsplit]
  refine storable_writeAll _ _ (by rwa [← hsplit, map_name_choose]) (fun f hf => ?_) (fun f hf => ?_) s
  · obtain ⟨g, hg, rfl⟩ := List.mem_map.1 hf
    exact isSetting_only (hsettings g hg) _
  · obtain ⟨g, hg, rfl⟩ := List.mem_map.1 hf
    exact isTable_only (htables g hg) _

/-- A section without tables needs no such order. -/
theorem storable_choose_settings {fields : List (Field σ)} (hnodup : (fields.map Field.name).Nodup)
    (h : ∀ f ∈ fields, f.IsSetting) (s : σ) : Storable 2 (writeAll (choose chosen fields) s) := by
  have hstored := storable_choose chosen fields [] (by simpa using hnodup) h (List.forall_mem_nil _) s
  rwa [List.append_nil] at hstored

end Writing

variable (chosen : String → String → Bool) (c : Config)

theorem nodup_fieldsChosen : ((fieldsChosen chosen).map Field.name).Nodup := by
  have hnames : (fieldsChosen chosen).map Field.name = fields.map Field.name := rfl
  rw [hnames]
  decide

/-- A file with the chosen settings can be stored. -/
theorem storable_fieldsChosen : Storable 3 (writeAll (fieldsChosen chosen) c) := by
  refine storable_writeAll [] (fieldsChosen chosen) (nodup_fieldsChosen chosen) (List.forall_mem_nil _) ?_ c
  simp only [fieldsChosen, List.forall_mem_cons]
  exact ⟨isTable_record _ (storable_choose _ (traceFields.take 4) _ (by decide) (by simp [traceFields])
      (List.forall_mem_singleton.2 (isTable_textTable _ _ _ 0))) _ _,
    isTable_record _ (storable_choose_settings _ (by decide) (by simp [patternFields])) _ _,
    isTable_record _ (storable_choose_settings _ (by decide) (by simp [templateFields])) _ _,
    isTable_record _ (storable_choose_settings _ (by decide) (by simp [formatFields])) _ _,
    isTable_record _ (storable_choose _ [] _ (by decide) (List.forall_mem_nil _)
      (List.forall_mem_singleton.2 (isTable_textTable _ _ _ 0))) _ _,
    isTable_record _ (storable_choose_settings _ (by decide) (by simp [outputFields])) _ _,
    isTable_record _ (storable_choose_settings _ (by decide) (by simp [rendererFields])) _ _,
    List.forall_mem_nil _⟩

/-- It gives them, and no others. -/
theorem gives_fieldsChosen : c.Gives (writeAll (fieldsChosen chosen) c) chosen := by
  have hlookup := lookup_writeAll (nodup_fieldsChosen chosen) c
  generalize writeAll (fieldsChosen chosen) c = pairs at hlookup
  simp only [fieldsChosen, List.forall_mem_cons] at hlookup
  obtain ⟨htrace, hpatterns, htemplates, hformat, hentities, houtput, hrenderer, -⟩ := hlookup
  exact ⟨givesSection_of_lookup _ (by decide) htrace, givesSection_of_lookup _ (by decide) hpatterns,
    givesSection_of_lookup _ (by decide) htemplates, givesFormat_of_lookup _ hformat,
    givesSection_of_lookup _ (by decide) hentities, givesSection_of_lookup _ (by decide) houtput,
    givesSection_of_lookup _ (by decide) hrenderer⟩

/-- **There is a file for every choice**, which gives the chosen settings and no others. -/
theorem exists_partial_file : ∃ text pairs, Toml.read? text = some pairs ∧ c.Gives pairs chosen :=
  ⟨_, _, Toml.read?_write (storable_fieldsChosen chosen c) (by decide), gives_fieldsChosen chosen c⟩

end Config

/-- **A partial file is read as the settings that it gives.** For every configuration, every choice of its
settings and every file that gives the chosen ones, whatever else the file holds under other names: reading it
comes to the configuration with the chosen settings, each taken as a whole, and the defaults for all others. -/
theorem readConfig_partial (c : Config) (chosen : String → String → Bool) {text : String}
    {pairs : List (String × Toml)} (htext : Toml.read? text = some pairs) (hgives : c.Gives pairs chosen) :
    Config.read? text = some (c.pick chosen) ∧
      ∀ (fs : FileSystem) (path : String), fs.readText path = .ok text →
        readConfig fs path = .ok (c.pick chosen) := by
  have hread : Config.read? text = some (c.pick chosen) := by
    change (Toml.read? text).bind (fun pairs => Field.readNamed Config.fields pairs {}) = _
    rw [htext, Option.bind_some, Config.readNamed_of_gives_pick hgives]
  refine ⟨hread, fun fs path hfile => ?_⟩
  simp only [readConfig, hfile, hread]

/-- A file with an entity that is traced, with bookmarks, and with names that mean nothing. -/
def annotatedPairs : List (String × Toml) := [
  ("author", .text "nobody"),
  ("trace", .table [("traced_entity", .text "RLC"), ("comment", .text "radio")]),
  ("format", .table [("bookmarks", .list (["Setup", "Release", "Setup"].map .text))]),
  ("colours", .table [("dark", .flag true)])]

/-- The settings that it gives. -/
def annotatedChoice (name field : String) : Bool :=
  (name, field) = ("trace", "traced_entity") ∨ (name, field) = ("format", "bookmarks")

/-- A configuration with these settings. What else it has is not in the file. -/
def annotatedConfig : Config where
  trace := { tracedEntity := "RLC", scopeMarker := "." }
  format := { bookmarks := TextSet.ofList ["Release", "Setup"] }

/-- The file is read as the two settings, and the defaults for all others. -/
theorem readConfig_partial_annotated :
    Toml.read? (Toml.write annotatedPairs) = some annotatedPairs ∧
      annotatedConfig.Gives annotatedPairs annotatedChoice ∧
      Config.read? (Toml.write annotatedPairs) = some (annotatedConfig.pick annotatedChoice) ∧
      ∀ (fs : FileSystem) (path : String), fs.readText path = .ok (Toml.write annotatedPairs) →
        readConfig fs path = .ok (annotatedConfig.pick annotatedChoice) := by
  have hstorable : Storable 2 annotatedPairs := by
    have hinner : ∀ {inner : List (String × Toml)}, (inner.map Prod.fst).Nodup → (∀ p ∈ inner, Simple p.2) →
        Storable 1 inner := fun hnodup h => ⟨hnodup, _, [], (List.append_nil _).symm, h, List.forall_mem_nil _⟩
    refine ⟨by decide, annotatedPairs.take 1, annotatedPairs.drop 1, rfl, ?_, ?_⟩
    · exact List.forall_mem_singleton.2 (.text _)
    · refine List.forall_mem_cons.2 ⟨⟨_, rfl, hinner (by decide) ?_⟩, List.forall_mem_cons.2
        ⟨⟨_, rfl, hinner (by decide) ?_⟩, List.forall_mem_singleton.2 ⟨_, rfl, hinner (by decide) ?_⟩⟩⟩
      · exact List.forall_mem_cons.2 ⟨.text _, List.forall_mem_singleton.2 (.text _)⟩
      · exact List.forall_mem_singleton.2 (.texts _)
      · exact List.forall_mem_singleton.2 (.flag _)
  have htext : Toml.read? (Toml.write annotatedPairs) = some annotatedPairs :=
    Toml.read?_write hstorable (by decide)
  have hgives : annotatedConfig.Gives annotatedPairs annotatedChoice := by
    refine ⟨⟨_, rfl, ?_⟩, ?_, ?_, ⟨_, ["Setup", "Release", "Setup"], rfl, ?_, rfl, ?_⟩, ?_, ?_, ?_⟩
    · simp [Field.Gives, Field.choose, Config.traceFields, Field.only, Field.text, Field.textTable,
        annotatedChoice, annotatedConfig]
    · exact Config.givesSection_nothing _ rfl (by simp [annotatedChoice])
    · exact Config.givesSection_nothing _ rfl (by simp [annotatedChoice])
    · intro u
      rw [annotatedConfig, TextSet.mem_ofList]
      simp only [List.mem_cons, List.not_mem_nil, or_false]
      grind
    · simp [Config.formatFields, Field.only, Field.text, Field.texts, Field.optionalText, annotatedChoice]
    · exact Config.givesSection_nothing _ rfl (by simp [annotatedChoice])
    · exact Config.givesSection_nothing _ rfl (by simp [annotatedChoice])
    · exact Config.givesSection_nothing _ rfl (by simp [annotatedChoice])
  exact ⟨htext, hgives, readConfig_partial annotatedConfig annotatedChoice htext hgives⟩

end TraceDiagram
