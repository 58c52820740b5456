import TraceDiagram.Proofs.Generating
import TraceDiagram.Proofs.Paths

/-! # Project files and the documents they name

A project file is drawn in its own directory, and names the document that it was written for by the last name of
the document's path.

* **`Renderer.modelPath?`** the path of the document that a project names; **`Renderer.Designates`** whether it leads
  to a document from where the project file is drawn.
* **`Renderer.locate_launchDirectory`** the directory that a project file is drawn in.
* **`Compiler.NewProject`** what a new project file says, where it is drawn, and where its document is looked for then;
  by **`Compiler.exists_newProject`** that is so.
* **`Compiler.project_designates_iff`** the document is found only if both files are in the same directory. -/

namespace TraceDiagram

open FileSystem Text

/-- A key has the value that it has been set to, and the others keep theirs. -/
theorem Json.lookup_assign (key other : String) (value : Json) (pairs : List (String × Json)) :
    (assign key value pairs).lookup other = if other = key then some value else pairs.lookup other := by
  induction pairs with
  | nil => rw [assign, lookup_cons_ite]
  | cons pair pairs ih =>
    obtain ⟨front, _⟩ := pair
    rw [assign]
    split
    · rw [lookup_cons_ite]
    · split
      · next hsame =>
        subst hsame
        rw [lookup_cons_ite, lookup_cons_ite]
        by_cases hother : other = key <;> simp only [hother, if_true, if_false]
      · next hne =>
        rw [lookup_cons_ite, ih, lookup_cons_ite]
        by_cases hother : other = front
        · rw [if_pos hother, if_pos hother, hother, if_neg (Ne.symm hne)]
        · rw [if_neg hother, if_neg hother]

/-! ## Launching -/

namespace Renderer

/-- The path of the document that a project names. -/
def modelPath? : Json → Option String
  | .object pairs =>
    match pairs.lookup "scenarios" with
    | some (.list (.object scenario :: _)) =>
      match scenario.lookup "modelPath" with
      | some (.text path) => some path
      | _ => none
    | _ => none
  | _ => none

/-- The name of a document is recorded, and not its path. -/
theorem modelPath?_project {document name : String} (h : Path.fileName? document = some name) :
    modelPath? (project document) = some name := by
  simp [project, h, Json.ofPairs, modelPath?, Json.lookup_assign]

theorem launchDirectory_ne_empty (file : String) : launchDirectory file ≠ "" := by
  unfold launchDirectory
  split
  · next dir hdir =>
    split
    · decide
    · next hne => simpa using hne
  · decide

/-- The directory of a project file lacks the last move of its path. -/
theorem moves_launchDirectory (file : String) :
    Path.moves (launchDirectory file) = (Path.moves file).dropLast := by
  have hpoint : Path.moves "." = [] := by decide +kernel
  have hempty : Path.moves "" = [] := by decide +kernel
  unfold launchDirectory
  split
  · next dir hdir =>
    rw [← (Path.moves_parent hdir).1]
    split
    · next he => rw [hpoint, String.isEmpty_iff.1 he, hempty]
    · rfl
  · next hnone => rw [hpoint, Path.moves_of_parent?_eq_none hnone, List.dropLast_nil]

/-- It begins where the path does. -/
theorem isAbsolute_launchDirectory {file : String} (h : Path.moves file ≠ []) :
    Path.isAbsolute (launchDirectory file) = Path.isAbsolute file := by
  unfold launchDirectory
  split
  · next dir hdir =>
    rw [← (Path.moves_parent hdir).2]
    split
    · next he =>
      rw [String.isEmpty_iff.1 he]
      decide +kernel
    · rfl
  · next hnone => exact absurd (Path.moves_of_parent?_eq_none hnone) h

/-- **A project file is drawn in its directory.** -/
theorem locate_launchDirectory {fs : FileSystem} {file last : String} {front : List String} {place : Place}
    (h : fs.locate file = .ok place) (hmoves : Path.moves file = front ++ [last]) :
    fs.locate (launchDirectory file) = .ok (front.foldl step (fs.origin file)) ∧
      fs.entryAt (front.foldl step (fs.origin file)) = some .directory ∧
      place = step (front.foldl step (fs.origin file)) last := by
  obtain ⟨directory, hfront, hdirectory, hplace⟩ := exists_directory_of_locate h hmoves
  have hlaunch : Path.moves (launchDirectory file) = front := by
    rw [moves_launchDirectory, hmoves, List.dropLast_concat]
  have horigin : fs.origin (launchDirectory file) = fs.origin file := by
    rw [origin, origin, isAbsolute_launchDirectory (by simp [hmoves])]
  obtain rfl := eq_foldl_of_follow hfront
  refine ⟨locate_of_follow (launchDirectory_ne_empty file) ?_ hdirectory, hdirectory, hplace⟩
  rwa [hlaunch, horigin]

/-- From the directory that a project file is drawn in, a path leads to a document. -/
def Designates (fs : FileSystem) (file recorded document : String) : Prop :=
  ∃ place, fs.locate (Path.join (launchDirectory file) recorded) = .ok place ∧ fs.locate document = .ok place

end Renderer

/-! ## New project files -/

namespace Compiler

variable (c : Compiler)

/-- The place that the path of the project file is seen from: the root, or else the directory of the document. -/
def base (directory : Place) : Place := if Path.isAbsolute c.config.output.projectFile then [] else directory

theorem entryAt_base {fs : FileSystem} {directory : Place} (h : fs.entryAt directory = some .directory) :
    fs.entryAt (c.base directory) = some .directory := by
  unfold base
  split
  · rfl
  · exact h

theorem projectFileFor_of_isAbsolute (path : String) (h : Path.isAbsolute c.config.output.projectFile = true) :
    c.projectFileFor path = c.config.output.projectFile := if_pos h

theorem projectFileFor_of_parent {path dir : String} (h : Path.isAbsolute c.config.output.projectFile = false)
    (hdir : Path.parent? path = some dir) :
    c.projectFileFor path = Path.join dir c.config.output.projectFile := by
  simp only [projectFileFor, h, hdir]
  rfl

/-- What comes before the moves of the configured path leads to the place that this is seen from. -/
theorem exists_way (fs : FileSystem) {path name : String} (hname : Path.fileName? path = some name) :
    ∃ way, Path.moves (c.projectFileFor path) = way ++ Path.moves c.config.output.projectFile ∧
      way.foldl step (fs.origin (c.projectFileFor path)) =
        c.base ((Path.moves path).dropLast.foldl step (fs.origin path)) := by
  cases hfile : Path.isAbsolute c.config.output.projectFile with
  | true =>
    rw [c.projectFileFor_of_isAbsolute path hfile, origin, base, hfile]
    exact ⟨[], rfl, rfl⟩
  | false =>
    cases hparent : Path.parent? path with
    | none =>
      have hlast := (Path.getLast?_moves_of_fileName hname).1
      rw [Path.moves_of_parent?_eq_none hparent] at hlast
      cases hlast
    | some dir =>
      obtain ⟨hmoves, habsolute⟩ := Path.moves_parent hparent
      rw [c.projectFileFor_of_parent hfile hparent, Path.moves_join hfile, hmoves, origin, Path.isAbsolute_join hfile,
        habsolute, base, hfile]
      exact ⟨_, rfl, rfl⟩

/-- What a new project file is worth: what it says, where it is drawn, and where the document that it names is
looked for then. The document is in one directory, and the project file in another or the same. -/
structure NewProject (path name : String) (directory home : Place) (fs : FileSystem) : Prop where
  /-- It has been written for the document. -/
  saved : fs.read (c.projectFileFor path) = .ok (encode (Renderer.project path).prettyText)
  /-- The document is named by the last name of its path. -/
  recorded : Renderer.modelPath? (Renderer.project path) = some name
  /-- The document is in its directory. -/
  document : fs.locate path = .ok (directory ++ [name])
  /-- The project file is drawn in its directory. -/
  launched : fs.locate (Renderer.launchDirectory (c.projectFileFor path)) = .ok home
  /-- That is where the configured path of the project file leads before its last move. -/
  home_eq : home = (Path.moves c.config.output.projectFile).dropLast.foldl step (c.base directory)
  /-- The document is looked for in the directory of the project file. -/
  sought : fs.locate (Path.join (Renderer.launchDirectory (c.projectFileFor path)) name) = .ok (home ++ [name])

variable {c}

/-- The document is found if both files are in the same directory, and only then. -/
theorem NewProject.designates_iff {path name : String} {directory home : Place} {fs : FileSystem}
    (h : c.NewProject path name directory home fs) :
    Renderer.Designates fs (c.projectFileFor path) name path ↔ home = directory := by
  unfold Renderer.Designates
  rw [h.sought, h.document]
  simp [eq_comm]

variable (c)

/-- **A new project file** is drawn in its directory. -/
theorem exists_newProject {path text name : String} {p : Progress} {after : FileSystem}
    (hwritten : (c.writeDocument path text).effect p = (.ok (), after))
    (hnew : ((Task.saveFile .file path text).effect p).2.holds (c.projectFileFor path) = false)
    (hname : Path.fileName? path = some name) : ∃ directory home, c.NewProject path name directory home after := by
  obtain ⟨once, hsave, hproject⟩ := c.writeDocument_cases hwritten
  rw [hsave] at hnew
  obtain ⟨hholds, -⟩ | ⟨-, hsaves⟩ := hproject
  · rw [hnew] at hholds
    cases hholds
  -- the document is where it has been written
  obtain ⟨place, hplace, -⟩ := (Task.saves_saveFile hsave).file
  obtain ⟨front, hmoves⟩ := List.getLast?_eq_some_iff.1 (Path.getLast?_moves_of_fileName hname).1
  obtain ⟨-, hdirectory, hdocument⟩ := Renderer.locate_launchDirectory (hsaves.keeps.locate hplace) hmoves
  obtain ⟨way, hfile, hway⟩ := c.exists_way after hname
  rw [hmoves, List.dropLast_concat] at hway
  generalize front.foldl step (after.origin path) = directory at hdirectory hdocument hway
  -- the project file is not where a directory is, so that its configured path has a last move
  obtain ⟨place', hplace', -, hthere⟩ := hsaves.file
  have hmoved : Path.moves c.config.output.projectFile ≠ [] := by
    intro hnil
    have hbase := eq_foldl_of_follow (follow_of_locate hplace')
    rw [hfile, hnil, List.append_nil, hway] at hbase
    rw [hbase, c.entryAt_base hdirectory] at hthere
    cases hthere
  obtain ⟨front', last, hconcat⟩ := (List.eq_nil_or_concat' _).resolve_left hmoved
  rw [hconcat, ← List.append_assoc] at hfile
  obtain ⟨hlaunch, hhome, -⟩ := Renderer.locate_launchDirectory hplace' hfile
  rw [List.foldl_append, hway] at hlaunch hhome
  refine ⟨directory, _, hsaves.read, Renderer.modelPath?_project hname, ?_, hlaunch, ?_,
    FileSystem.locate_join_fileName hlaunch hhome hname⟩
  · rw [hsaves.keeps.locate hplace, hdocument, (Path.name_of_fileName hname).2.2.2]
  · rw [hconcat, List.dropLast_concat]

/-- Drawing finds what writing has left. -/
theorem effect_generate_of_writeDocument {s : Surroundings} {input? output? : Option String} {text : String}
    {p : Progress} {after : FileSystem} (htext : c.documentIn s p.files input? = .ok text) (noRender : Bool)
    (hwritten : (c.writeDocument (output?.getD c.config.output.document) text).effect p = (.ok (), after)) :
    (c.generate s input? output? noRender).effect p =
      (c.drawing s noRender (output?.getD c.config.output.document)).effect { files := after } := by
  rw [effect_generate, htext]
  simp only [publish]
  rw [Task.effect_bind fun _ => c.ignoresLog_drawing s noRender _, hwritten]

/-- **A new project file designates the document** if it is in the directory of the document, and only then.
Drawing finds it as writing has left it, names the document by the last name of its path, and looks for it in its own
directory; that is the one of the document if the configured path of the project file is a name without directories. -/
theorem project_designates_iff (s : Surroundings) (input? output? : Option String) (noRender : Bool) (p : Progress) :
    let path := output?.getD c.config.output.document
    ∀ text name after, c.documentIn s p.files input? = .ok text →
      (c.writeDocument path text).effect p = (.ok (), after) →
      ((Task.saveFile .file path text).effect p).2.holds (c.projectFileFor path) = false →
      Path.fileName? path = some name →
      (c.generate s input? output? noRender).effect p = (c.drawing s noRender path).effect { files := after } ∧
      ∃ directory home, c.NewProject path name directory home after ∧
        (Renderer.Designates after (c.projectFileFor path) name path ↔ home = directory) ∧
        (Path.isAbsolute c.config.output.projectFile = false →
          (Path.moves c.config.output.projectFile).length = 1 → home = directory) := by
  intro path text name after htext hwritten hnew hname
  obtain ⟨directory, home, hproject⟩ := c.exists_newProject hwritten hnew hname
  refine ⟨c.effect_generate_of_writeDocument htext noRender hwritten, directory, home, hproject,
    hproject.designates_iff, fun hrelative hlength => ?_⟩
  obtain ⟨file, hfile⟩ := List.length_eq_one_iff.1 hlength
  rw [hproject.home_eq, hfile, base, hrelative]
  rfl

end Compiler

/-- By default both files are next to each other, and the document is found. -/
theorem project_designates_default :
    let c := defaultCompiler.withOutput {}
    ∃ after, c.documentIn idleSurroundings {} none = .ok emptyDocument ∧
      (c.writeDocument "trace.fdl" emptyDocument).effect { files := {} } = (.ok (), after) ∧
      ((Task.saveFile .file "trace.fdl" emptyDocument).effect { files := {} }).2.holds
        (c.projectFileFor "trace.fdl") = false ∧ Path.fileName? "trace.fdl" = some "trace.fdl" ∧
      Renderer.Designates after (c.projectFileFor "trace.fdl") "trace.fdl" "trace.fdl" := by
  intro c
  have hdocument : c.documentIn idleSurroundings {} none = .ok emptyDocument := documentIn_idle _ _
  have hpath : c.config.output.document = "trace.fdl" := rfl
  have hfile : c.config.output.projectFile = "project.scn.json" := rfl
  -- nothing else about the compiler matters
  clear_value c
  have hproject : c.projectFileFor "trace.fdl" = "project.scn.json" := by
    rw [Compiler.projectFileFor, hfile]
    decide +kernel
  have hwritten : ((c.writeDocument "trace.fdl" emptyDocument).effect { files := {} }).1 = .ok () := by
    rw [c.writeDocument_eq, hproject]
    decide +kernel
  have hnew : ((Task.saveFile .file "trace.fdl" emptyDocument).effect { files := {} }).2.holds
      (c.projectFileFor "trace.fdl") = false := by
    rw [hproject]
    decide +kernel
  have hname : Path.fileName? "trace.fdl" = some "trace.fdl" := by decide +kernel
  have hall := c.project_designates_iff idleSurroundings none none true { files := {} }
  rw [Option.getD_none, hpath, hfile] at hall
  obtain ⟨-, directory, home, -, hiff, hhome⟩ := hall _ _ _ hdocument (Prod.ext hwritten rfl) hnew hname
  exact ⟨_, hdocument, Prod.ext hwritten rfl, hnew, hname, hiff.2 (hhome (by decide +kernel) (by decide +kernel))⟩

/-- A project file in a directory of its own names a document that is not there. -/
theorem project_designates_nothing :
    let c := defaultCompiler.withOutput { projectFile := "project/project.scn.json" }
    ∃ after, (c.generate idleSurroundings none none true).effect { files := {} } = (.ok (), after) ∧
      ((Task.saveFile .file "trace.fdl" emptyDocument).effect { files := {} }).2.holds
        (c.projectFileFor "trace.fdl") = false ∧ Path.fileName? "trace.fdl" = some "trace.fdl" ∧
      Renderer.modelPath? (Renderer.project "trace.fdl") = some "trace.fdl" ∧
      after.holds (Path.join (Renderer.launchDirectory (c.projectFileFor "trace.fdl")) "trace.fdl") = false ∧
      ¬Renderer.Designates after (c.projectFileFor "trace.fdl") "trace.fdl" "trace.fdl" := by
  intro c
  have hdocument : c.documentIn idleSurroundings {} none = .ok emptyDocument := documentIn_idle _ _
  have hpath : c.config.output.document = "trace.fdl" := rfl
  have hfile : c.config.output.projectFile = "project/project.scn.json" := rfl
  clear_value c
  have hproject : c.projectFileFor "trace.fdl" = "project/project.scn.json" := by
    rw [Compiler.projectFileFor, hfile]
    decide +kernel
  have hname : Path.fileName? "trace.fdl" = some "trace.fdl" := by decide +kernel
  have hwritten : ((c.writeDocument "trace.fdl" emptyDocument).effect { files := {} }).1 = .ok () := by
    rw [c.writeDocument_eq, hproject]
    decide +kernel
  have hnew : ((Task.saveFile .file "trace.fdl" emptyDocument).effect { files := {} }).2.holds
      (c.projectFileFor "trace.fdl") = false := by
    rw [hproject]
    decide +kernel
  have hafter : (c.writeDocument "trace.fdl" emptyDocument).effect { files := {} } = (.ok (), _) :=
    Prod.ext hwritten rfl
  have hgenerated : (c.generate idleSurroundings none none true).effect { files := {} } =
      (.ok (), ((c.writeDocument "trace.fdl" emptyDocument).effect { files := {} }).2) := by
    rw [c.effect_generate_of_writeDocument hdocument true (by rw [Option.getD_none, hpath, hafter])]
    exact Task.effect_say _ _
  refine ⟨_, hgenerated, hnew, hname, Renderer.modelPath?_project hname, ?_, ?_⟩
  · rw [c.writeDocument_eq, hproject]
    decide +kernel
  · obtain ⟨directory, home, hall⟩ := c.exists_newProject hafter hnew hname
    have hmoves : Path.moves "project/project.scn.json" = ["project", "project.scn.json"] := by decide +kernel
    have hhome : home = directory ++ ["project"] := by
      rw [hall.home_eq, Compiler.base, hfile, hmoves]
      rfl
    rw [hall.designates_iff, hhome]
    simp

end TraceDiagram
