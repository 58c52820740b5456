import TraceDiagram.Compiler
import TraceDiagram.Config.Text
import TraceDiagram.Renderer
import TraceDiagram.Validation

/-! # Commands

* **`loadConfig`** the configuration that is in force: the file that is named, or one with a customary name in
  the working directory, or the defaults.
* **`Compiler.generate`** reads a trace and writes its document, **`Compiler.render`** draws the document.
* **`Compiler.init`** writes the configuration to a file, **`Compiler.check`** looks it through.
-/

namespace TraceDiagram

/-! ## Configuration files -/

/-- The customary names of configuration files, the preferred one first. -/
def configNames : List String := ["Traceflow.toml", "traceflow.toml", ".traceflow.toml"]

/-- The configuration in a file. -/
def readConfig (fs : FileSystem) (path : String) : Except Failure Config :=
  match fs.readText path with
  | .error e => .error (.io e)
  | .ok text =>
    match Config.read? text with
    | some config => .ok config
    | none => .error (.config .unreadable)

/-- The configuration that is in force. -/
def loadConfig (fs : FileSystem) (path? : Option String) : Except Failure Config :=
  match path? with
  | some path => if fs.holds path then readConfig fs path else .error (.config (.missingFile path))
  | none =>
    match configNames.find? fs.holds with
    | some name => readConfig fs name
    | none => .ok {}

namespace Compiler

/-! ## Documents -/

/-- The text of a trace: of a file, or else the standard input. Bytes that are no text do no harm. -/
def readTrace (s : Surroundings) (path? : Option String) : Task String := do
  let bytes ← match path? with
    | some path =>
      Task.say (.info ("Reading trace from " ++ path))
      Task.ask .file (·.read path)
    | none =>
      Task.say (.info "Reading trace from standard input")
      pure s.input
  return String.ofList (Text.decodeLossy bytes)

/-- The document of a trace. -/
def compiled (c : Compiler) (trace : String) : Task String := do
  let (result, log) := c.compile trace
  Task.sayAll log
  Task.ofExcept result

/-- The project file for a document. Unless it has an absolute path, it is seen from the document's directory. -/
def projectFileFor (c : Compiler) (document : String) : String :=
  let file := c.config.output.projectFile
  if Path.isAbsolute file then file
  else match Path.parent? document with
    | some dir => Path.join dir file
    | none => file

/-- Writes a document and its project file. -/
def writeDocument (c : Compiler) (path text : String) : Task Unit := do
  Task.makeParent .file path
  Task.change .file (·.writeText path text)
  Renderer.writeProjectFile (c.projectFileFor path) path

/-- Reads a trace, writes its document and has it drawn, unless that is not wanted. -/
def generate (c : Compiler) (s : Surroundings) (input? output? : Option String) (noRender : Bool) :
    Task Unit := do
  let trace ← readTrace s input?
  let path := output?.getD c.config.output.document
  Task.say (.info ("📝 Generating " ++ path))
  let text ← c.compiled trace
  c.writeDocument path text
  if noRender || !c.config.renderer.enabled then Task.say (.debug "Rendering disabled")
  else Renderer.draw c.config.renderer s (c.projectFileFor path)

/-- Has the document drawn that has been written before. -/
def render (c : Compiler) (s : Surroundings) : Task Unit := do
  let file := c.projectFileFor c.config.output.document
  if ← Task.look (·.holds file) then Renderer.draw c.config.renderer s file
  else throw (.renderer ("Project file " ++ file ++ " not found; run generate first"))

/-! ## Configurations -/

/-- Writes the configuration to a directory, unless there is one and it is not to be replaced. -/
def init (c : Compiler) (dir? : Option String) (force : Bool) : Task Unit := do
  let dir := dir?.getD (FileSystem.pathOf (← get).files.workingPlace)
  let file := Path.join dir (configNames.headD "")
  Task.say (.info ("Initializing Traceflow in: " ++ dir))
  if (← Task.look (·.holds file)) && !force then throw (.config (.alreadyThere file))
  else
    match ← Task.attempt (·.makeDirectories dir) with
    | .error e => throw (.file e)
    | .ok () =>
      Task.change .io (·.writeText file c.config.write)
      Task.say (.info ("✅ Wrote " ++ file))

/-- The messages for findings of a kind. -/
def findingLog (findings : List String) : List LogEntry :=
  findings.map fun text => .warn ("  - " ++ text)

/-- Looks the configuration through. Warnings count as errors if the check is strict. -/
def check (c : Compiler) (strict : Bool) : Task Unit := do
  Task.say (.info "✅ Validating configuration...")
  let findings := Findings.ofConfig c.config
  Task.sayAll (findingLog findings.warnings)
  if findings.isValid && (!strict || findings.warnings.isEmpty) then
    Task.say (.info "✅ Configuration validation passed")
  else
    Task.say (.warn "❌ Configuration validation failed:")
    Task.sayAll (findingLog findings.errors)
    throw (.validation findings.errors.length findings.warnings.length)

end Compiler

end TraceDiagram
