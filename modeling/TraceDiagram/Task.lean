import TraceDiagram.Failure
import TraceDiagram.Launch
import TraceDiagram.Log

/-! # Tasks

A task changes files, logs messages and may fail. What it has changed and logged before it fails stays.

* **`Surroundings`** what a task finds, **`Progress`** what it has changed and logged.
* **`Task.say`** logs, **`Task.ask`** reads files, **`Task.change`** changes them.
-/

namespace TraceDiagram

/-- What a task finds. -/
structure Surroundings where
  /-- The home directory of the user. -/
  home : Option String
  /-- The bytes of the standard input. -/
  input : List UInt8
  /-- What launching a program does. -/
  launcher : Launcher

/-- What a task has changed and logged. -/
structure Progress where
  /-- The files. -/
  files : FileSystem
  /-- The messages, in order. -/
  log : List LogEntry := []
  deriving DecidableEq, Repr

/-- A step that changes files, logs messages and may fail. -/
abbrev Task := ExceptT Failure (StateM Progress)

namespace Task

/-- Logs messages. -/
def sayAll (entries : List LogEntry) : Task Unit :=
  modify fun p => { p with log := p.log ++ entries }

/-- Logs a message. -/
def say (entry : LogEntry) : Task Unit := sayAll [entry]

/-- Gives a result or fails. -/
def ofExcept {α : Type} : Except Failure α → Task α
  | .ok a => pure a
  | .error e => throw e

/-- Reads files; `cause` tells which failure a fault is. -/
def ask {α : Type} (cause : FileFault → Failure) (f : FileSystem → Except FileFault α) : Task α := do
  match f (← get).files with
  | .ok a => pure a
  | .error e => throw (cause e)

/-- Says something about the files. -/
def look {α : Type} (f : FileSystem → α) : Task α := do return f (← get).files

/-- Changes files, as far as it goes. -/
def attempt {α : Type} (f : FileSystem → Except FileFault α × FileSystem) :
    Task (Except FileFault α) := do
  let (result, files) := f (← get).files
  modify fun p => { p with files := files }
  return result

/-- Changes files, or fails without a change; `cause` tells which failure a fault is. -/
def change (cause : FileFault → Failure) (f : FileSystem → Except FileFault FileSystem) :
    Task Unit := do
  let files ← ask cause f
  modify fun p => { p with files := files }

/-- Makes the directory that a path leads into, unless it is the working directory. -/
def makeParent (cause : FileFault → Failure) (path : String) : Task Unit := do
  match Path.parent? path with
  | none => pure ()
  | some dir =>
    if dir.isEmpty then pure ()
    else match ← attempt (·.makeDirectories dir) with
      | .ok () => pure ()
      | .error e => throw (cause e)

end Task

end TraceDiagram
