import TraceDiagram.FileSystem

/-! # Launching programs

* **`ExitStatus`** how a program ended, **`Launcher`** what launching a program does.
* **`FileSystem.findProgram`** the program that a name or path stands for.
-/

namespace TraceDiagram

/-- How a program ended. -/
inductive ExitStatus where
  /-- By itself, with a number. -/
  | code (number : Nat)
  /-- By a signal. -/
  | signal (number : Nat)
  deriving DecidableEq, Repr

/-- The names of signals, by number. -/
def signalNames : List (Nat × String) := [
  (1, "HUP"), (2, "INT"), (3, "QUIT"), (4, "ILL"), (5, "TRAP"), (6, "ABRT"), (7, "BUS"), (8, "FPE"),
  (9, "KILL"), (10, "USR1"), (11, "SEGV"), (12, "USR2"), (13, "PIPE"), (14, "ALRM"), (15, "TERM")]

namespace ExitStatus

/-- Whether the program did what it should. -/
def isSuccess (s : ExitStatus) : Bool := s = .code 0

/-- The words for the status. -/
def message : ExitStatus → String
  | .code n => "exit status: " ++ toString n
  | .signal n =>
    "signal: " ++ toString n ++ match signalNames.lookup n with
      | some name => " (SIG" ++ name ++ ")"
      | none => ""

end ExitStatus

/-- A program to launch. -/
structure Launch where
  /-- Its name or path. -/
  executable : String
  /-- What it is told. -/
  args : List String
  /-- The directory that it runs in. -/
  directory : String
  deriving DecidableEq, Repr

/-- What launching a program does: how it ends, or why it does not start, and the files then. -/
abbrev Launcher := Launch → FileSystem → Except FileFault ExitStatus × FileSystem

namespace FileSystem

/-- The directories that programs are looked for in. -/
def programDirectories : List String := ["/usr/local/bin", "/usr/bin", "/bin"]

/-- The program that a path leads to. -/
def programAt (fs : FileSystem) (path : String) : Except FileFault String :=
  match fs.find path with
  | .error e => .error e
  | .ok (.program name) => .ok name
  | .ok _ => .error .permissionDenied

/-- The program that a name or path stands for. A name without slashes is looked for in the directories for
programs. -/
def findProgram (fs : FileSystem) (executable : String) : Except FileFault String :=
  if executable.toList.contains '/' then fs.programAt executable
  else if executable.isEmpty then .error .notFound
  else
    match programDirectories.findSome? fun dir => (fs.programAt (Path.join dir executable)).toOption with
    | some name => .ok name
    | none => .error .notFound

end FileSystem

end TraceDiagram
