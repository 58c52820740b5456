import TraceDiagram.Commands
import TraceDiagram.Proofs.Toml.Tables

/-! # Configurations in files

A configuration is read back from the text that is written for it, field by field, and from the file that it
is saved to.

* **`Field.Restores`** what reading a field does that has been written; **`readNamed_writeAll`** reads all
  fields of a structure back.
* **`storable_writeAll`** the fields of a structure can be stored, values in front of tables.
* **`read?_write`** the text of a configuration is read back; **`readConfig_saved`** and so is its file. -/

namespace TraceDiagram

open Toml

/-! ## Fields -/

namespace Field

variable {σ τ : Type}

/-- Sets a field from what is found under its name, if anything is. -/
def readIf (f : Field σ) (found : Option Toml) (s : σ) : Option σ :=
  match found with
  | some v => f.read v s
  | none => some s

/-- What is written for a field of `s`, unless it is left out, makes `new` of `old`. -/
def Restores (f : Field σ) (s old new : σ) : Prop := f.readIf (f.write s) old = some new

/-- What is written for some fields of `s` makes `new` of `old`, field by field. -/
inductive RestoresAll (s : σ) : List (Field σ) → σ → σ → Prop where
  /-- No field is left. -/
  | nil {old : σ} : RestoresAll s [] old old
  /-- A field is restored, then the others. -/
  | cons {f : Field σ} {fields : List (Field σ)} {old mid new : σ} (first : f.Restores s old mid)
    (others : RestoresAll s fields mid new) : RestoresAll s (f :: fields) old new

/-- Only the names of fields are written. -/
theorem map_fst_writeAll (fields : List (Field σ)) (s : σ) :
    ((writeAll fields s).map Prod.fst).Sublist (fields.map Field.name) := by
  induction fields with
  | nil => exact .slnil
  | cons f fields ih =>
    rw [writeAll, List.filterMap_cons]
    cases f.write s with
    | none => exact ih.cons _
    | some v => exact ih.cons_cons _

/-- A field stands under its name, unless it is left out. -/
theorem lookup_writeAll {fields : List (Field σ)} (hnodup : (fields.map Field.name).Nodup) (s : σ) :
    ∀ f ∈ fields, (writeAll fields s).lookup f.name = f.write s := by
  induction fields with
  | nil => exact List.forall_mem_nil _
  | cons g fields ih =>
    rw [List.map_cons, List.nodup_cons] at hnodup
    obtain ⟨hnew, hnodup⟩ := hnodup
    rw [List.forall_mem_cons]
    refine ⟨?_, fun f hf => ?_⟩
    · cases hwrite : g.write s with
      | none =>
        have hmissing : (writeAll fields s).lookup g.name = none :=
          lookup_of_not_mem fun h => hnew ((map_fst_writeAll fields s).subset h)
        simpa [writeAll, hwrite] using hmissing
      | some v => simp [writeAll, hwrite]
    · have hne : (f.name == g.name) = false := by
        rw [beq_eq_false_iff_ne]
        exact fun h => hnew (h ▸ List.mem_map_of_mem hf)
      rw [← ih hnodup f hf]
      cases hwrite : g.write s <;> simp [writeAll, hwrite, List.lookup_cons, hne]

/-- What stands under the names of some fields is what is written for those of `s`. -/
def Gives (fields : List (Field σ)) (s : σ) (pairs : List (String × Toml)) : Prop :=
  ∀ f ∈ fields, pairs.lookup f.name = f.write s

/-- One field is read after the other. -/
theorem readNamed_cons {f : Field σ} {fields : List (Field σ)} {pairs : List (String × Toml)} {old mid : σ}
    (h : f.readIf (pairs.lookup f.name) old = some mid) :
    readNamed (f :: fields) pairs old = readNamed fields pairs mid := by
  rw [readNamed, List.foldlM_cons]
  change (f.readIf (pairs.lookup f.name) old).bind (fun s => readNamed fields pairs s) = _
  rw [h, Option.bind_some]

/-- **Fields are restored** from pairs that give them, whatever else the pairs hold. -/
theorem readNamed_of_gives {fields : List (Field σ)} {s old new : σ} (h : RestoresAll s fields old new)
    {pairs : List (String × Toml)} (hgives : Gives fields s pairs) :
    readNamed fields pairs old = some new := by
  induction h with
  | nil => rfl
  | @cons f fields old mid new hfirst hothers ih =>
    obtain ⟨hhere, hgives⟩ := List.forall_mem_cons.1 hgives
    have hfound : f.readIf (pairs.lookup f.name) old = some mid := by
      rw [hhere]
      exact hfirst
    rw [readNamed_cons hfound, ih hgives]

/-- **The fields of a structure are read back**, each from what stands under its name. -/
theorem readNamed_writeAll {fields : List (Field σ)} (hnodup : (fields.map Field.name).Nodup) {s old new : σ}
    (h : RestoresAll s fields old new) : readNamed fields (writeAll fields s) old = some new :=
  readNamed_of_gives h (lookup_writeAll hnodup s)

/-! ### Kinds of fields -/

section Kinds

variable (name : String) (s old : σ)

theorem restores_text (get : σ → String) (set : String → σ → σ) :
    (text name get set).Restores s old (set (get s) old) := rfl

theorem restores_flag (get : σ → Bool) (set : Bool → σ → σ) :
    (flag name get set).Restores s old (set (get s) old) := rfl

/-- A text that is missing is left out, so it has to be missing before. -/
theorem restores_optionalText (get : σ → Option String) (set : Option String → σ → σ)
    (hold : set none old = old) : (optionalText name get set).Restores s old (set (get s) old) := by
  change (optionalText name get set).readIf ((get s).map .text) old = _
  cases get s with
  | none => exact congrArg some hold.symm
  | some t => rfl

theorem mapM_text? (ts : List String) : (ts.map Toml.text).mapM text? = some ts := by
  induction ts with
  | nil => rfl
  | cons t ts ih =>
    rw [List.map_cons, List.mapM_cons, ih]
    rfl

theorem restores_texts (get : σ → List String) (set : List String → σ → σ) :
    (texts name get set).Restores s old (set (get s) old) := by
  change ((((get s).map Toml.text).mapM text?).map fun ts => set ts old) = _
  rw [mapM_text?, Option.map_some]

theorem textPairs?_table (ps : List (String × String)) :
    (Toml.table (ps.map fun p => (p.1, .text p.2))).textPairs? = some ps := by
  change (ps.map fun p => (p.1, Toml.text p.2)).mapM (fun p => p.2.text?.map (p.1, ·)) = _
  induction ps with
  | nil => rfl
  | cons p ps ih =>
    rw [List.map_cons, List.mapM_cons, ih]
    rfl

theorem restores_textTable (get : σ → Dict String String) (set : Dict String String → σ → σ) :
    (textTable name get set).Restores s old (set (get s) old) := by
  change ((Toml.table ((get s).entries.map fun p => (p.1, .text p.2))).textPairs?.map
    fun ps => set (Dict.ofList ps) old) = _
  rw [textPairs?_table, Option.map_some, Dict.ofList_entries]

/-- A structure is restored with all its fields. -/
theorem restores_record {fields : List (Field τ)} (hnodup : (fields.map Field.name).Nodup) (get : σ → τ)
    (set : τ → σ → σ) (h : RestoresAll (get s) fields (get old) (get s)) :
    (record name fields get set).Restores s old (set (get s) old) := by
  change ((readNamed fields (writeAll fields (get s)) (get old)).map fun t => set t old) = _
  rw [readNamed_writeAll hnodup h, Option.map_some]

end Kinds

/-! ### What is stored -/

/-- A field that is stored as a value which holds no tables. -/
def IsSetting (f : Field σ) : Prop := ∀ s v, f.write s = some v → Simple v

/-- A field that is stored as a table, with tables nested so many levels deep. -/
def IsTable (depth : Nat) (f : Field σ) : Prop :=
  ∀ s v, f.write s = some v → ∃ inner, v = .table inner ∧ Storable depth inner

section Stored

variable (name : String)

@[simp] theorem isSetting_text (get : σ → String) (set : String → σ → σ) : (text name get set).IsSetting := by
  rintro s v ⟨⟩
  exact .text _

@[simp] theorem isSetting_optionalText (get : σ → Option String) (set : Option String → σ → σ) :
    (optionalText name get set).IsSetting := by
  intro s v h
  obtain ⟨t, -, rfl⟩ := Option.map_eq_some_iff.1 h
  exact .text _

@[simp] theorem isSetting_flag (get : σ → Bool) (set : Bool → σ → σ) : (flag name get set).IsSetting := by
  rintro s v ⟨⟩
  exact .flag _

@[simp] theorem isSetting_texts (get : σ → List String) (set : List String → σ → σ) :
    (texts name get set).IsSetting := by
  rintro s v ⟨⟩
  exact .texts _

theorem isTable_textTable (get : σ → Dict String String) (set : Dict String String → σ → σ) (depth : Nat) :
    (textTable name get set).IsTable (depth + 1) := by
  rintro s v ⟨⟩
  refine ⟨_, rfl, ?_, _, [], (List.append_nil _).symm, ?_, List.forall_mem_nil _⟩
  · simpa [Function.comp_def] using (get s).nodup_keys
  · intro p hp
    obtain ⟨q, -, rfl⟩ := List.mem_map.1 hp
    exact .text _

theorem isTable_record {fields : List (Field τ)} {depth : Nat} (h : ∀ t, Storable depth (writeAll fields t))
    (get : σ → τ) (set : τ → σ → σ) : (record name fields get set).IsTable depth := by
  rintro s v ⟨⟩
  exact ⟨_, rfl, h _⟩

/-- **The fields of a structure can be stored**, if values stand in front of tables. -/
theorem storable_writeAll (settings tables : List (Field σ)) {depth : Nat}
    (hnodup : ((settings ++ tables).map Field.name).Nodup) (hsettings : ∀ f ∈ settings, f.IsSetting)
    (htables : ∀ f ∈ tables, f.IsTable depth) (s : σ) :
    Storable (depth + 1) (writeAll (settings ++ tables) s) := by
  refine ⟨hnodup.sublist (map_fst_writeAll _ s), _, _, List.filterMap_append, ?_, ?_⟩
  · intro p hp
    obtain ⟨f, hf, hp⟩ := List.mem_filterMap.1 hp
    obtain ⟨v, hv, rfl⟩ := Option.map_eq_some_iff.1 hp
    exact hsettings f hf s v hv
  · intro p hp
    obtain ⟨f, hf, hp⟩ := List.mem_filterMap.1 hp
    obtain ⟨v, hv, rfl⟩ := Option.map_eq_some_iff.1 hp
    exact htables f hf s v hv

end Stored

end Field

/-! ## Sections -/

namespace Config

open TraceDiagram.Field

/-! ### Reading sections back -/

theorem restores_trace (t : Config.Trace) : RestoresAll t traceFields {} t :=
  .cons (restores_text _ _ _ _ _) <| .cons (restores_text _ _ _ _ _) <|
  .cons (restores_text _ _ _ _ _) <| .cons (restores_text _ _ _ _ _) <|
  .cons (restores_textTable _ _ _ _ _) .nil

theorem restores_patterns (t : Config.Patterns) : RestoresAll t patternFields {} t := by
  repeat' first | exact .nil | refine .cons (restores_text _ _ _ _ _) ?_

theorem restores_templates (t : Config.Templates) : RestoresAll t templateFields {} t := by
  repeat' first | exact .nil | refine .cons (restores_text _ _ _ _ _) ?_

theorem restores_format (t : Config.Format) : RestoresAll t formatFields {} t := by
  have h : RestoresAll t formatFields {} { t with bookmarks := TextSet.ofList t.bookmarks.items } :=
    .cons (restores_text _ _ _ _ _) <| .cons (restores_text _ _ _ _ _) <|
    .cons (restores_text _ _ _ _ _) <| .cons (restores_texts _ _ _ _ _) <|
    .cons (restores_optionalText _ _ _ _ _ rfl) <| .cons (restores_text _ _ _ _ _) <|
    .cons (restores_text _ _ _ _ _) .nil
  rw [TextSet.ofList_items] at h
  exact h

theorem restores_entities (t : Config.Entities) : RestoresAll t entityFields {} t :=
  .cons (restores_textTable _ _ _ _ _) .nil

theorem restores_output (t : Config.Output) : RestoresAll t outputFields {} t :=
  .cons (restores_text _ _ _ _ _) <| .cons (restores_text _ _ _ _ _) .nil

theorem restores_renderer (t : Config.Renderer) : RestoresAll t rendererFields {} t :=
  .cons (restores_flag _ _ _ _ _) <| .cons (restores_optionalText _ _ _ _ _ rfl) <|
  .cons (restores_optionalText _ _ _ _ _ rfl) <| .cons (restores_texts _ _ _ _ _) .nil

/-- All sections are read back from the defaults. -/
theorem restores_fields (c : Config) : RestoresAll c fields {} c :=
  .cons (restores_record _ _ _ (by decide) _ _ (restores_trace c.trace)) <|
  .cons (restores_record _ _ _ (by decide) _ _ (restores_patterns c.patterns)) <|
  .cons (restores_record _ _ _ (by decide) _ _ (restores_templates c.templates)) <|
  .cons (restores_record _ _ _ (by decide) _ _ (restores_format c.format)) <|
  .cons (restores_record _ _ _ (by decide) _ _ (restores_entities c.entities)) <|
  .cons (restores_record _ _ _ (by decide) _ _ (restores_output c.output)) <|
  .cons (restores_record _ _ _ (by decide) _ _ (restores_renderer c.renderer)) .nil

/-! ### Storing sections -/

/-- A section without tables can be stored. -/
theorem storable_of_settings {σ : Type} {fields : List (Field σ)} (hnodup : (fields.map Field.name).Nodup)
    (h : ∀ f ∈ fields, f.IsSetting) (depth : Nat) (s : σ) : Storable (depth + 1) (writeAll fields s) := by
  have hstored : Storable (depth + 1) (writeAll (fields ++ []) s) :=
    storable_writeAll fields [] (by simpa using hnodup) h (List.forall_mem_nil (Field.IsTable depth)) s
  rwa [List.append_nil] at hstored

/-- A section that holds one table of texts behind its values can be stored. -/
theorem storable_of_textTable {σ : Type} (settings : List (Field σ)) {name : String}
    {get : σ → Dict String String} {set : Dict String String → σ → σ}
    (hnodup : ((settings ++ [textTable name get set]).map Field.name).Nodup)
    (h : ∀ f ∈ settings, f.IsSetting) (s : σ) :
    Storable 2 (writeAll (settings ++ [textTable name get set]) s) :=
  storable_writeAll settings _ hnodup h (List.forall_mem_singleton.2 (isTable_textTable name get set 0)) s

theorem storable_trace (t : Config.Trace) : Storable 2 (writeAll traceFields t) :=
  storable_of_textTable (traceFields.take 4) (by decide) (by simp [traceFields]) t

theorem storable_patterns (t : Config.Patterns) : Storable 2 (writeAll patternFields t) :=
  storable_of_settings (by decide) (by simp [patternFields]) 1 t

theorem storable_templates (t : Config.Templates) : Storable 2 (writeAll templateFields t) :=
  storable_of_settings (by decide) (by simp [templateFields]) 1 t

theorem storable_format (t : Config.Format) : Storable 2 (writeAll formatFields t) :=
  storable_of_settings (by decide) (by simp [formatFields]) 1 t

theorem storable_entities (t : Config.Entities) : Storable 2 (writeAll entityFields t) :=
  storable_of_textTable [] (by decide) (List.forall_mem_nil _) t

theorem storable_output (t : Config.Output) : Storable 2 (writeAll outputFields t) :=
  storable_of_settings (by decide) (by simp [outputFields]) 1 t

theorem storable_renderer (t : Config.Renderer) : Storable 2 (writeAll rendererFields t) :=
  storable_of_settings (by decide) (by simp [rendererFields]) 1 t

/-- All settings can be stored. -/
theorem storable_fields (c : Config) : Storable 3 (writeAll fields c) := by
  refine storable_writeAll [] fields (by decide) (List.forall_mem_nil _) ?_ c
  simp only [fields, List.forall_mem_cons]
  exact ⟨isTable_record _ storable_trace _ _, isTable_record _ storable_patterns _ _,
    isTable_record _ storable_templates _ _, isTable_record _ storable_format _ _,
    isTable_record _ storable_entities _ _, isTable_record _ storable_output _ _,
    isTable_record _ storable_renderer _ _, List.forall_mem_nil _⟩

/-! ## Files -/

/-- **A configuration is read back** from the text that is written for it. -/
theorem read?_write (c : Config) : Config.read? c.write = some c := by
  have hnodup : (fields.map Field.name).Nodup := by decide
  have hread : Toml.read? c.write = some (writeAll fields c) :=
    Toml.read?_write (storable_fields c) (by decide)
  change (Toml.read? c.write).bind (fun pairs => readNamed fields pairs {}) = some c
  rw [hread, Option.bind_some, readNamed_writeAll hnodup (restores_fields c)]

end Config

/-- **A configuration that is saved is loaded again**: its text is read back, and so is every file to which it is
written. Saving it fails only where no text at all can be written. -/
theorem readConfig_saved (c : Config) :
    Config.read? c.write = some c ∧ ∀ (fs : FileSystem) (path : String),
      (∃ saved, fs.writeText path c.write = .ok saved ∧ readConfig saved path = .ok c) ∨
      ∃ fault, ∀ text, fs.writeText path text = .error fault := by
  refine ⟨c.read?_write, fun fs path => ?_⟩
  cases hsave : fs.writeText path c.write with
  | ok saved =>
    have hread : readConfig saved path = .ok c := by
      simp only [readConfig, FileSystem.readText_of_writeText hsave, c.read?_write]
    exact .inl ⟨saved, rfl, hread⟩
  | error fault => exact .inr ⟨fault, fun text => FileSystem.writeText_error hsave text⟩

end TraceDiagram
