import TraceDiagram.CommandLine
import TraceDiagram.Commands

/-! # Sessions

* **`Session.perform`** carries out a command line.
* **`Outcome`** how that ended: with a word on how to use the program, or with a result, messages and files.
-/

namespace TraceDiagram

/-- How carrying out a command line ended. -/
inductive Outcome where
  /-- The command line was not understood, or answered itself. -/
  | usage (fault : UsageFault)
  /-- The command ended, with the messages that are shown and the files then. -/
  | ended (result : Except Failure Unit) (log : List LogEntry) (files : FileSystem)

namespace Session

/-- Carries out a command with a configuration whose templates have been read. -/
def obey (c : Compiler) (s : Surroundings) : Command → Task Unit
  | .generate input? output? noRender => c.generate s input? output? noRender
  | .init path? force => c.init path? force
  | .check strict => c.check strict
  | .render => c.render s

/-- Loads the configuration and carries out a command. -/
def carryOut (s : Surroundings) (i : Invocation) : Task Unit := do
  let config ← Task.ofExcept (loadConfig (← get).files i.config?)
  let compiler ← Task.ofExcept (Compiler.ofConfig config)
  obey compiler s i.command

/-- The messages that are shown. -/
def shown (verbose : Bool) (log : List LogEntry) : List LogEntry :=
  log.filter fun e => verbose || e.level ≠ .debug

/-- Carries out a command line. -/
def perform (s : Surroundings) (args : List String) (files : FileSystem) : Outcome :=
  match Invocation.ofArgs args with
  | .error fault => .usage fault
  | .ok i =>
    let (result, progress) := (carryOut s i).run { files := files }
    .ended result (shown i.verbose progress.log) progress.files

end Session

end TraceDiagram
