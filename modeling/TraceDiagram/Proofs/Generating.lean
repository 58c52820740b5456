import TraceDiagram.Commands
import TraceDiagram.Proofs.Default.Document
import TraceDiagram.Proofs.Effects

/-! # Files that generating leaves

A document is written only after its trace has been read and compiled, and then its project file, unless there
is one.

* **`Compiler.documentIn`** the document of a trace, or why there is none.
* **`Compiler.effect_generate`** what generating does: the document is found, then it is written, and then it is
  drawn.
* **`Written`** what is left when a document and its project file have been written; **`written_of_effect`**
  that is so.
* **`generate_files`** all or nothing: either no file changes, or the files of the document are written. -/

namespace TraceDiagram

open FileSystem Text

/-! ## Steps -/

namespace Renderer

/-- A project file is kept, or else saved. -/
theorem writeProjectFile_eq (file document : String) : writeProjectFile file document =
    Task.look (·.holds file) >>= fun there =>
      if there then Task.say (.debug ("Keeping existing project file " ++ file))
      else Task.saveFile .io file (project document).prettyText >>= fun _ =>
        Task.say (.info ("Wrote project file " ++ file)) := by
  simp [writeProjectFile, Task.saveFile]

theorem ignoresLog_writeProjectFile (file document : String) : (writeProjectFile file document).IgnoresLog := by
  rw [writeProjectFile_eq]
  refine (Task.ignoresLog_look _).bind fun there => ?_
  split
  · exact Task.ignoresLog_say _
  · exact (Task.ignoresLog_saveFile _ _ _).bind fun _ => Task.ignoresLog_say _

/-- A project file that is there is kept, and otherwise it is saved. -/
theorem writeProjectFile_cases {file document : String} {p : Progress} {after : FileSystem}
    (h : (writeProjectFile file document).effect p = (.ok (), after)) :
    (p.files.holds file = true ∧ after = p.files) ∨ (p.files.holds file = false ∧
      Saves (Path.Above · file) file (encode (project document).prettyText) p.files after) := by
  rw [writeProjectFile_eq] at h
  change (if p.files.holds file then _ else _ : Task Unit).effect p = _ at h
  cases hholds : p.files.holds file with
  | true =>
    rw [if_pos hholds, Task.effect_say] at h
    cases h
    exact .inl ⟨rfl, rfl⟩
  | false =>
    rw [hholds, if_neg Bool.false_ne_true] at h
    obtain ⟨_, saved, hsave, hsaid⟩ := Task.exists_of_effect_bind (fun _ => Task.ignoresLog_say _) h
    cases hsaid
    exact .inr ⟨rfl, Task.saves_saveFile hsave⟩

theorem ignoresLog_draw (config : Config.Renderer) (s : Surroundings) (file : String) :
    (draw config s file).IgnoresLog := by
  refine Task.ignoresLog_get (fun found => ?_) fun _ _ => rfl
  refine (Task.ignoresLog_ofExcept _).bind fun program => (Task.ignoresLog_say _).bind fun _ =>
    (Task.ignoresLog_say _).bind fun _ => (Task.ignoresLog_attempt _).bind fun ended => ?_
  split
  · exact Task.ignoresLog_throw _
  · exact Task.ignoresLog_say _

/-- Drawing changes no files if the program does not. -/
theorem keepsFiles_draw (config : Config.Renderer) {s : Surroundings}
    (hlaunch : ∀ launch fs, (s.launcher launch fs).2 = fs) (file : String) :
    (draw config s file).KeepsFiles := by
  have hget : (get : Task Progress).KeepsFiles := fun _ => rfl
  have hsay : ∀ entry, (Task.say entry).KeepsFiles := fun _ _ => rfl
  refine hget.bind fun found => Task.KeepsFiles.bind ?_ fun program => ?_
  · intro p
    rw [Task.effect_ofExcept]
  · refine (hsay _).bind fun _ => (hsay _).bind fun _ => Task.KeepsFiles.bind ?_ fun ended => ?_
    · intro p
      exact hlaunch _ _
    · split
      · exact fun _ => rfl
      · exact hsay _

end Renderer

namespace Compiler

variable (c : Compiler) (s : Surroundings)

/-- The text of a trace: of a file, or else the standard input. -/
def traceIn (fs : FileSystem) : Option String → Except Failure String
  | some path => ((fs.read path).mapError .file).map fun bytes => String.ofList (decodeLossy bytes)
  | none => .ok (String.ofList (decodeLossy s.input))

/-- The document of the trace in a file or in the standard input, or why there is none. -/
def documentIn (fs : FileSystem) (input? : Option String) : Except Failure String :=
  match traceIn s fs input? with
  | .error e => .error e
  | .ok trace => (c.compile trace).1

theorem documentIn_of_traceIn {fs : FileSystem} {input? : Option String} {trace : String}
    (h : traceIn s fs input? = .ok trace) : c.documentIn s fs input? = (c.compile trace).1 := by
  rw [documentIn, h]

theorem effect_readTrace (input? : Option String) (p : Progress) :
    (readTrace s input?).effect p = (traceIn s p.files input?, p.files) := by
  cases input? with
  | none => rfl
  | some path =>
    change (Task.say _ >>= fun _ => Task.ask Failure.file (·.read path) >>= fun bytes =>
      pure (String.ofList (decodeLossy bytes))).effect p = _
    rw [Task.effect_bind fun _ => (Task.ignoresLog_ask _ _).bind fun _ => Task.ignoresLog_pure _, Task.effect_say]
    simp only
    rw [Task.effect_bind fun _ => Task.ignoresLog_pure _, Task.effect_ask, traceIn]
    cases p.files.read path with
    | error e => rfl
    | ok bytes => exact Task.effect_pure _ _

theorem effect_compiled (trace : String) (p : Progress) :
    (c.compiled trace).effect p = ((c.compile trace).1, p.files) := by
  unfold compiled
  rw [Task.effect_bind fun _ => Task.ignoresLog_ofExcept _]
  simp

/-- A document is saved, and then its project file is written. -/
theorem writeDocument_eq (path text : String) : c.writeDocument path text =
    Task.saveFile .file path text >>= fun _ => Renderer.writeProjectFile (c.projectFileFor path) path := by
  simp [writeDocument, Task.saveFile]

theorem ignoresLog_writeDocument (path text : String) : (c.writeDocument path text).IgnoresLog := by
  rw [writeDocument_eq]
  exact (Task.ignoresLog_saveFile _ _ _).bind fun _ => Renderer.ignoresLog_writeProjectFile _ _

/-- Has a document drawn, unless that is not wanted. -/
def drawing (noRender : Bool) (path : String) : Task Unit :=
  if noRender || !c.config.renderer.enabled then Task.say (.debug "Rendering disabled")
  else Renderer.draw c.config.renderer s (c.projectFileFor path)

theorem ignoresLog_drawing (noRender : Bool) (path : String) : (c.drawing s noRender path).IgnoresLog := by
  unfold drawing
  split
  · exact Task.ignoresLog_say _
  · exact Renderer.ignoresLog_draw _ _ _

/-- Writes a document and has it drawn. -/
def publish (noRender : Bool) (path text : String) : Task Unit := do
  c.writeDocument path text
  c.drawing s noRender path

theorem ignoresLog_publish (noRender : Bool) (path text : String) : (c.publish s noRender path text).IgnoresLog :=
  (c.ignoresLog_writeDocument path text).bind fun _ => c.ignoresLog_drawing s noRender path

/-- **What generating does**: the document is found before it is written and drawn. -/
theorem effect_generate (input? output? : Option String) (noRender : Bool) (p : Progress) :
    (c.generate s input? output? noRender).effect p =
      match c.documentIn s p.files input? with
      | .error e => (.error e, p.files)
      | .ok text => (c.publish s noRender (output?.getD c.config.output.document) text).effect p := by
  have hcompiled : ∀ trace, (c.compiled trace).IgnoresLog := by
    intro trace files log
    rw [effect_compiled, effect_compiled]
  have hsaid : ∀ trace, (Task.say (.info ("📝 Generating " ++ output?.getD c.config.output.document)) >>= fun _ =>
      c.compiled trace >>= c.publish s noRender (output?.getD c.config.output.document)).IgnoresLog :=
    fun trace => (Task.ignoresLog_say _).bind fun _ => (hcompiled trace).bind (c.ignoresLog_publish s noRender _)
  change (readTrace s input? >>= fun trace => Task.say _ >>= fun _ => c.compiled trace >>=
    c.publish s noRender (output?.getD c.config.output.document)).effect p = _
  rw [Task.effect_bind hsaid, effect_readTrace, documentIn]
  cases traceIn s p.files input? with
  | error e => rfl
  | ok trace =>
    simp only
    rw [Task.effect_bind fun _ => (hcompiled trace).bind (c.ignoresLog_publish s noRender _), Task.effect_say]
    simp only
    rw [Task.effect_bind (c.ignoresLog_publish s noRender _), effect_compiled]
    cases (c.compile trace).1 with
    | error e => rfl
    | ok text => exact ((c.ignoresLog_publish s noRender _ text).effect_eq p).symm

end Compiler

/-! ## Files -/

/-- What is left when a document and its project file have been written: `once` the document, and then, where
nothing was by then, the project file. -/
structure Written (path project text : String) (before once after : FileSystem) : Prop where
  /-- The document has been saved first. -/
  document : Saves (Path.Above · path) path (encode text) before once
  /-- Relative paths are seen from the same place. -/
  workingPlace : after.workingPlace = before.workingPlace
  /-- Besides the two files, only directories above them are new. -/
  entry : ∀ place, after.locate path ≠ .ok place →
    (once.holds project = false → after.locate project ≠ .ok place) →
    Stays (fun outer => Path.Above outer path ∨ Path.Above outer project) before after place
  /-- The document can be read, unless the project file has been written to its place. -/
  read_document : (once.holds project = true ∨ after.locate project ≠ after.locate path) →
    after.read path = .ok (encode text)
  /-- The project file can be read if it has been written. -/
  read_project : once.holds project = false →
    after.read project = .ok (encode (Renderer.project path).prettyText)
  /-- A project file that was there is kept, unless the document has been written to its place. -/
  kept : ∀ bytes, before.read project = .ok bytes → after.locate project ≠ after.locate path →
    after.read project = .ok bytes

section Written

variable {path project text : String} {before once after : FileSystem}

/-- A project file that is there is kept. -/
theorem written_of_holds (hdocument : Saves (Path.Above · path) path (encode text) before after)
    (hholds : after.holds project = true) : Written path project text before after after where
  document := hdocument
  workingPlace := hdocument.workingPlace
  entry place hplace _ := (hdocument.entry place hplace).mono fun _ => .inl
  read_document _ := hdocument.read
  read_project hmissing := by
    rw [hholds] at hmissing
    cases hmissing
  kept bytes hread hne := hdocument.read_other hread hne

/-- A project file is saved where nothing is. -/
theorem written_of_saves (hdocument : Saves (Path.Above · path) path (encode text) before once)
    (hmissing : once.holds project = false)
    (hproject : Saves (Path.Above · project) project (encode (Renderer.project path).prettyText) once after) :
    Written path project text before once after where
  document := hdocument
  workingPlace := hproject.workingPlace.trans hdocument.workingPlace
  entry place hplace hother := by
    have honce : once.locate path ≠ .ok place := fun h => hplace (hproject.keeps.locate h)
    exact ((hdocument.entry place honce).mono fun _ => .inl).trans
      ((hproject.entry place (hother hmissing)).mono fun _ => .inr) hproject.keeps
  read_document h := by
    rw [hmissing] at h
    have hne : after.locate project ≠ after.locate path := h.resolve_left Bool.false_ne_true
    exact hproject.read_other hdocument.read hne.symm
  read_project _ := hproject.read
  kept bytes hread hne := by
    -- a file that was there and is not the document is still there, so it is not missing
    obtain ⟨place, hlocate, -⟩ := exists_place_of_read hread
    obtain ⟨written, hwritten, -⟩ := hdocument.file
    have honce : once.locate project ≠ once.locate path := by
      rw [hproject.keeps.locate hwritten, hproject.keeps.locate (hdocument.keeps.locate hlocate)] at hne
      rwa [hwritten, hdocument.keeps.locate hlocate]
    rw [holds_of_read (hdocument.read_other hread honce)] at hmissing
    cases hmissing

end Written

namespace Compiler

variable (c : Compiler)

/-- A document is saved before its project file is kept or saved. -/
theorem writeDocument_cases {path text : String} {p : Progress} {after : FileSystem}
    (h : (c.writeDocument path text).effect p = (.ok (), after)) :
    ∃ once, (Task.saveFile .file path text).effect p = (.ok (), once) ∧
      ((once.holds (c.projectFileFor path) = true ∧ after = once) ∨ (once.holds (c.projectFileFor path) = false ∧
        Saves (Path.Above · (c.projectFileFor path)) (c.projectFileFor path)
          (encode (Renderer.project path).prettyText) once after)) := by
  rw [writeDocument_eq] at h
  obtain ⟨_, once, hsave, hproject⟩ :=
    Task.exists_of_effect_bind (fun _ => Renderer.ignoresLog_writeProjectFile _ _) h
  exact ⟨once, hsave, Renderer.writeProjectFile_cases hproject⟩

/-- Writing a document leaves it and its project file. -/
theorem written_of_effect {path text : String} {p : Progress} {after : FileSystem}
    (h : (c.writeDocument path text).effect p = (.ok (), after)) :
    Written path (c.projectFileFor path) text p.files ((Task.saveFile .file path text).effect p).2 after := by
  obtain ⟨once, hsave, hproject⟩ := c.writeDocument_cases h
  have hdocument := Task.saves_saveFile hsave
  rw [hsave]
  rcases hproject with ⟨hholds, rfl⟩ | ⟨hmissing, hproject⟩
  · exact written_of_holds hdocument hholds
  · exact written_of_saves hdocument hmissing hproject

/-- Once the document is known, it is what is written, and drawing it changes no files. -/
theorem files_generate {s : Surroundings} (hlaunch : ∀ launch fs, (s.launcher launch fs).2 = fs)
    {input? output? : Option String} {text : String} {p : Progress}
    (htext : c.documentIn s p.files input? = .ok text) (noRender : Bool) :
    ((c.generate s input? output? noRender).effect p).2 =
      ((c.writeDocument (output?.getD c.config.output.document) text).effect p).2 := by
  rw [effect_generate, htext]
  refine Task.files_bind (fun _ => ?_) p
  unfold drawing
  split
  · exact fun _ => rfl
  · exact Renderer.keepsFiles_draw _ hlaunch _

/-- **Generating is all or nothing.** If the trace cannot be read or has no document then that is the failure, and
no file changes. If the document and its project file can be written then they are, and nothing else has changed
but that there may be new directories above them, whatever becomes of the drawing; the program that draws is
taken not to change files. -/
theorem generate_files {s : Surroundings} (hlaunch : ∀ launch fs, (s.launcher launch fs).2 = fs)
    (input? output? : Option String) (noRender : Bool) (p : Progress) :
    let path := output?.getD c.config.output.document
    (∀ e, c.documentIn s p.files input? = .error e →
      (c.generate s input? output? noRender).effect p = (.error e, p.files)) ∧
    ∀ text, c.documentIn s p.files input? = .ok text → ((c.writeDocument path text).effect p).1 = .ok () →
      Written path (c.projectFileFor path) text p.files ((Task.saveFile .file path text).effect p).2
        ((c.generate s input? output? noRender).effect p).2 := by
  intro path
  constructor
  · intro e he
    rw [effect_generate, he]
  · intro text htext hwritten
    rw [c.files_generate hlaunch htext]
    exact c.written_of_effect (Prod.ext hwritten rfl)

end Compiler

/-! ## Traces without lines -/

/-- The same compiler with other files to write to. -/
def Compiler.withOutput (c : Compiler) (output : Config.Output) : Compiler :=
  { c with config := { c.config with output := output } }

/-- Where a document is written to has no influence on it. -/
theorem Compiler.compile_withOutput (c : Compiler) (output : Config.Output) (trace : String) :
    (c.withOutput output).compile trace = c.compile trace := rfl

/-- The document of a trace without lines under the default configuration. -/
def emptyDocument : String := "#include <stdinc.FDL>\n\n\nfeature \"generated flow\" \x7b\n\x7d\n"

theorem compile_empty : (defaultCompiler.compile "").1 = .ok emptyDocument := by
  have hread : (defaultReader.read "").1.parsed = {} := rfl
  have hbody : defaultCompiler.layout.body (defaultReader.read "").1.parsed = .ok "" := by
    rw [hread]
    rfl
  have hdocument : defaultCompiler.layout.header {} ++ "" ++ Layout.footer = emptyDocument := by decide +kernel
  rw [Compiler.compile_of_body reader_default hbody, hread, hdocument]

/-- Surroundings without input, in which programs succeed and do nothing. -/
def idleSurroundings : Surroundings where
  home := none
  input := []
  launcher := fun _ fs => (.ok (.code 0), fs)

theorem documentIn_idle (output : Config.Output) (fs : FileSystem) :
    (defaultCompiler.withOutput output).documentIn idleSurroundings fs none = .ok emptyDocument := by
  have hempty : String.ofList (decodeLossy []) = "" := by decide +kernel
  have htrace : Compiler.traceIn idleSurroundings fs none = .ok "" := congrArg Except.ok hempty
  rw [Compiler.documentIn_of_traceIn _ _ htrace, Compiler.compile_withOutput, compile_empty]

/-- A document is written although there is nothing to draw it with. -/
theorem generate_files_idle :
    let c := defaultCompiler.withOutput {}
    (∀ launch fs, (idleSurroundings.launcher launch fs).2 = fs) ∧
      c.documentIn idleSurroundings {} none = .ok emptyDocument ∧
      ((c.writeDocument "trace.fdl" emptyDocument).effect { files := {} }).1 = .ok () ∧
      ((c.generate idleSurroundings none none false).effect { files := {} }).2.read "trace.fdl" =
        .ok (encode emptyDocument) := by
  intro c
  have hlaunch : ∀ launch fs, (idleSurroundings.launcher launch fs).2 = fs := fun _ _ => rfl
  have hdocument : c.documentIn idleSurroundings {} none = .ok emptyDocument := documentIn_idle _ _
  have hpath : c.config.output.document = "trace.fdl" := rfl
  have hfile : c.config.output.projectFile = "project.scn.json" := rfl
  -- nothing else about the compiler matters
  clear_value c
  have hproject : c.projectFileFor "trace.fdl" = "project.scn.json" := by
    rw [Compiler.projectFileFor, hfile]
    decide +kernel
  have hwritten : ((c.writeDocument "trace.fdl" emptyDocument).effect { files := {} }).1 = .ok () := by
    rw [c.writeDocument_eq, hproject]
    decide +kernel
  refine ⟨hlaunch, hdocument, hwritten, ?_⟩
  have hleft := (c.generate_files hlaunch none none false { files := {} }).2 emptyDocument hdocument
  rw [Option.getD_none, hpath] at hleft
  refine (hleft hwritten).read_document (.inr ?_)
  rw [c.files_generate hlaunch hdocument, Option.getD_none, hpath, c.writeDocument_eq, hproject]
  decide +kernel

/-- A project file is looked for before the directories on its path are made. If its path leads into a missing
directory and out of it to the document then nothing is found there, and the project file replaces the
document. -/
theorem project_replaces_document :
    let c := defaultCompiler.withOutput { projectFile := "x/../trace.fdl" }
    c.documentIn idleSurroundings {} none = .ok emptyDocument ∧
      ((c.writeDocument "trace.fdl" emptyDocument).effect { files := {} }).1 = .ok () ∧
      ((c.generate idleSurroundings none none true).effect { files := {} }).2.read "trace.fdl" =
        .ok (encode (Renderer.project "trace.fdl").prettyText) ∧
      encode (Renderer.project "trace.fdl").prettyText ≠ encode emptyDocument := by
  intro c
  have hdocument : c.documentIn idleSurroundings {} none = .ok emptyDocument := documentIn_idle _ _
  have hpath : c.config.output.document = "trace.fdl" := rfl
  have hfile : c.config.output.projectFile = "x/../trace.fdl" := rfl
  clear_value c
  have hproject : c.projectFileFor "trace.fdl" = "x/../trace.fdl" := by
    rw [Compiler.projectFileFor, hfile]
    decide +kernel
  have hwritten : ((c.writeDocument "trace.fdl" emptyDocument).effect { files := {} }).1 = .ok () := by
    rw [c.writeDocument_eq, hproject]
    decide +kernel
  refine ⟨hdocument, hwritten, ?_, fun heq => ?_⟩
  · have hmissing : ((Task.saveFile .file "trace.fdl" emptyDocument).effect { files := {} }).2.holds
        "x/../trace.fdl" = false := by decide +kernel
    have hleft := c.written_of_effect (Prod.ext hwritten rfl)
    rw [hproject] at hleft
    rw [c.files_generate (fun _ _ => rfl) hdocument, Option.getD_none, hpath, ← hleft.read_project hmissing,
      c.writeDocument_eq, hproject]
    have hplaces : ∀ path ∈ ["trace.fdl", "x/../trace.fdl"],
        ((Task.saveFile .file "trace.fdl" emptyDocument >>= fun _ =>
          Renderer.writeProjectFile "x/../trace.fdl" "trace.fdl").effect { files := {} }).2.locate path =
            .ok ["trace.fdl"] := by decide +kernel
    exact read_congr (hplaces _ (by simp)) (hplaces _ (by simp)) rfl (by decide +kernel)
  · have hhead : (Renderer.project "trace.fdl").pretty.head? = some '\x7b' := by decide +kernel
    have htexts := congrArg (fun bytes => (decode? bytes).map String.toList) heq
    simp only [decode?_encode, Option.map_some, Option.some.injEq, Json.prettyText, String.toList_ofList] at htexts
    rw [htexts] at hhead
    revert hhead
    decide +kernel

end TraceDiagram
