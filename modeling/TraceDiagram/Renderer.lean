import TraceDiagram.Task
import TraceDiagram.Text.LetterCase

/-! # Drawing diagrams

Diagrams are drawn by another program. It is told in a project file which document to draw.

* **`Renderer.findExtension`** the directory of that program among the extensions of an editor.
* **`Renderer.writeProjectFile`** writes a project file, unless there is one.
* **`Renderer.draw`** launches the program.
-/

namespace TraceDiagram.Renderer

/-! ## The program -/

/-- How the name of the program's directory begins, in lower case. -/
def directoryStart : String := "eventhelix.eventstudio-"

/-- Whether this is the program's directory. -/
def isExtension (p : String × Entry) : Bool :=
  p.2 = .directory && directoryStart.toList.isPrefixOf (Text.lowerText p.1.toList)

/-- The program's directory right below another one: the first by name. -/
def findExtension (fs : FileSystem) (dir : String) : Except Failure String :=
  match ((fs.children dir).toOption.getD []).find? isExtension with
  | some p => .ok (Path.join dir p.1)
  | none => .error (.renderer ("Could not find the renderer under " ++ dir))

/-- The system that this is. -/
def platform : String := "linux"

/-- The program's file for each system that it exists for. -/
def executableNames : List (String × String) := [("windows", "evstudio.exe"), ("macos", "evstudio")]

/-- Where the extensions of the editor are. -/
def extensionsDir? (config : Config.Renderer) (home : Option String) : Option String :=
  config.extensionsDir <|> home.map fun h => Path.join (Path.join h ".vscode") "extensions"

/-- The path of the program: the one that is configured, or the one among the extensions. -/
def executable (config : Config.Renderer) (home : Option String) (fs : FileSystem) :
    Except Failure String :=
  match config.executable with
  | some path => .ok path
  | none =>
    match extensionsDir? config home with
    | none => .error (.renderer "No renderer executable or extensions directory configured")
    | some dir => do
      let found ← findExtension fs dir
      match executableNames.lookup platform with
      | some name => return Path.join found name
      | none => throw (.unsupportedPlatform platform)

/-! ## Project files -/

/-- What a project file says about a document next to it. -/
def project (document : String) : Json :=
  Json.ofPairs [
    ("documents", .list [Json.ofPairs [
      ("documentName", .text "SequenceDiagram"),
      ("documentType", .text "sequence-diagram"),
      ("documentFormat", .text "pdf"),
      ("columnWidth", .text "medium"),
      ("remarkWidth", .text "small")]]),
    ("scenarios", .list [Json.ofPairs [
      ("modelPath", .text ((Path.fileName? document).getD document)),
      ("scenarioName", .text (((Path.fileName? document).map Path.stem).getD "trace"))]])]

/-- Writes the project file for a document, unless there is one. -/
def writeProjectFile (file document : String) : Task Unit := do
  if ← Task.look (·.holds file) then
    Task.say (.debug ("Keeping existing project file " ++ file))
  else
    Task.makeParent .io file
    Task.change .io (·.writeText file (project document).prettyText)
    Task.say (.info ("Wrote project file " ++ file))

/-! ## Drawing -/

/-- The directory that the program is launched in: that of the project file. -/
def launchDirectory (projectFile : String) : String :=
  match Path.parent? projectFile with
  | some dir => if dir.isEmpty then "." else dir
  | none => "."

/-- The words for a program that has been launched and ended. -/
def outcome (program : String) : Except FileFault ExitStatus → Except String Unit
  | .error e => .error ("Failed to launch " ++ program ++ ": " ++ e.message)
  | .ok status => if status.isSuccess then .ok () else .error ("Renderer exited with " ++ status.message)

/-- Launches the program for a project file. -/
def draw (config : Config.Renderer) (s : Surroundings) (projectFile : String) : Task Unit := do
  let program ← Task.ofExcept (executable config s.home (← get).files)
  Task.say (.info "🖼️ Rendering with EventStudio")
  Task.say (.info ("🖼️ Launching " ++ program ++ " " ++ Text.joinStrings " " config.args))
  let result ← Task.attempt (s.launcher {
    executable := program, args := config.args, directory := launchDirectory projectFile })
  match outcome program result with
  | .error reason => throw (.renderer reason)
  | .ok () => Task.say (.debug "Renderer finished successfully")

end TraceDiagram.Renderer
