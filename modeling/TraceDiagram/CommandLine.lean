/-! # Command lines

* **`Command`** what the user wants, **`Invocation`** that with the options that go for all commands.
* **`Switch`** an option, **`Level`** the options and commands that are known at some point of the line.
* **`Level.read`** reads the arguments as far as the level goes; **`UsageFault`** says why it cannot.
* **`Invocation.ofArgs`** reads a whole command line.
-/

namespace TraceDiagram

/-- What the user wants. -/
inductive Command where
  /-- To write the document of a trace. -/
  | generate (input? output? : Option String) (noRender : Bool)
  /-- To write a configuration. -/
  | init (path? : Option String) (force : Bool)
  /-- To have the configuration looked through. -/
  | check (strict : Bool)
  /-- To have the document drawn. -/
  | render
  deriving DecidableEq, Repr

/-- A command with the options that go for all commands. -/
structure Invocation where
  /-- The configuration file. -/
  config? : Option String
  /-- Whether all messages are shown. -/
  verbose : Bool
  /-- The command. -/
  command : Command
  deriving DecidableEq, Repr

/-- Why a command line is not carried out. -/
inductive UsageFault where
  /-- An argument stands where none is known. -/
  | unknownArgument
  /-- A value is missing or empty. -/
  | invalidValue
  /-- There is no such command. -/
  | invalidSubcommand
  /-- There is no command. -/
  | missingSubcommand
  /-- An option that takes no value has one. -/
  | tooManyValues
  /-- An option is given twice. -/
  | argumentConflict
  /-- Help is asked for. -/
  | displayHelp
  /-- There is nothing at all, which is answered with help. -/
  | displayHelpOnMissingArgumentOrSubcommand
  /-- The version is asked for. -/
  | displayVersion
  deriving DecidableEq, Repr

/-- An option. -/
structure Switch where
  /-- Its name. -/
  name : String
  /-- The letter that stands for it. -/
  letter : Option Char := none
  /-- Whether it takes a value. -/
  takesValue : Bool := false
  /-- What it answers with, in place of being noted. -/
  answer : Option UsageFault := none
  deriving DecidableEq, Repr

/-- The option that asks for help. -/
def helpSwitch : Switch := { name := "help", letter := some 'h', answer := some .displayHelp }

/-- The options and commands that are known at some point of the line. -/
structure Level where
  /-- The options. -/
  switches : List Switch
  /-- The commands. -/
  commands : List String := []
  deriving DecidableEq, Repr

/-- The options that have been given, with their values, and the last one, whose value has not been looked at. -/
structure Given where
  /-- The options and their values; the value of an option without one is empty. -/
  values : List (String × String) := []
  /-- The last option, with its value if it has been given. -/
  last : Option (Switch × Option String) := none
  deriving DecidableEq, Repr

namespace Given

/-- Notes an option with its value. -/
def note (g : Given) (s : Switch) (value : Option String) : Except UsageFault Given :=
  if s.takesValue && value.isNone then .error .invalidValue
  else if (g.values.lookup s.name).isSome then .error .argumentConflict
  else if s.takesValue && value = some "" then .error .invalidValue
  else match s.answer with
    | some fault => .error fault
    | none => .ok { g with values := g.values ++ [(s.name, value.getD "")] }

/-- Looks at the value of the last option. -/
def settle (g : Given) : Except UsageFault Given :=
  match g.last with
  | none => .ok g
  | some (s, value) => ({ g with last := none } : Given).note s value

/-- Notes an option, after the one before it. -/
def give (g : Given) (s : Switch) (value : Option String) : Except UsageFault Given := do
  let g ← g.settle
  g.note s value

/-- Leaves the value of an option to the next argument. -/
def expect (g : Given) (s : Switch) : Except UsageFault Given := do
  let g ← g.settle
  return { g with last := some (s, none) }

/-- Takes an argument for the value of the last option, if that is waiting for one. -/
def take? (g : Given) (arg : String) : Option Given :=
  match g.last with
  | some (s, none) => some { g with last := some (s, some arg) }
  | _ => none

/-- Whether the last option is waiting for its value. -/
def isWaiting (g : Given) : Bool :=
  match g.last with
  | some (_, none) => true
  | _ => false

/-- The value of an option. -/
def value? (g : Given) (name : String) : Option String := g.values.lookup name

/-- Whether an option is given. -/
def has (g : Given) (name : String) : Bool := (g.value? name).isSome

end Given

namespace Level

/-- Reads an option with its name, and the value behind an equals sign. -/
def readName (l : Level) (g : Given) (body : List Char) : Except UsageFault Given :=
  let name := String.ofList (body.takeWhile (· ≠ '='))
  let value : Option String := match body.dropWhile (· ≠ '=') with
    | _ :: v => some (String.ofList v)
    | [] => none
  match l.switches.find? fun s => s.name = name with
  | none => .error .unknownArgument
  | some s =>
    if s.takesValue then
      match value with
      | some v => g.give s (some v)
      | none => g.expect s
    else if value.isSome then .error .tooManyValues
    else g.give s none

/-- Reads options with their letters. The rest behind the letter of an option that takes a value is the value,
also behind an equals sign. -/
def readLetters (l : Level) (g : Given) : List Char → Except UsageFault Given
  | [] => .ok g
  | c :: rest =>
    match l.switches.find? fun s => s.letter = some c with
    | none => .error .unknownArgument
    | some s =>
      if s.takesValue then
        match rest with
        | [] => g.expect s
        | '=' :: v => g.give s (some (String.ofList v))
        | v => g.give s (some (String.ofList v))
      else do
        let g ← g.give s none
        l.readLetters g rest

/-- What is wrong with an argument that is neither an option nor a value nor a command. `behindDashes` says that
it stands behind two dashes, where even commands are none. -/
def stray (l : Level) (behindDashes : Bool) (arg : String) : UsageFault :=
  if l.commands.isEmpty || (behindDashes && l.commands.contains arg) then .unknownArgument
  else .invalidSubcommand

/-- Reads arguments up to the first command. -/
def read (l : Level) : Given → List String → Except UsageFault (Given × Option (String × List String))
  | g, [] => .ok (g, none)
  | g, arg :: rest =>
    if !g.isWaiting && l.commands.contains arg then .ok (g, some (arg, rest))
    else match arg.toList with
      | ['-', '-'] =>
        match rest with
        | [] => .ok (g, none)
        | next :: _ => .error (l.stray true next)
      | '-' :: '-' :: body => do
        let g ← l.readName g body
        l.read g rest
      | '-' :: c :: body => do
        let g ← l.readLetters g (c :: body)
        l.read g rest
      | _ =>
        match g.take? arg with
        | some g => l.read g rest
        | none => .error (l.stray false arg)

/-- Reads arguments among which there is no command. -/
def readAll (l : Level) (args : List String) : Except UsageFault Given := do
  let (g, _) ← l.read {} args
  g.settle

end Level

namespace Invocation

/-- The options of the single commands. -/
def commandLevels : List (String × Level) := [
  ("generate", { switches := [
    { name := "input", letter := some 'i', takesValue := true },
    { name := "output", letter := some 'o', takesValue := true },
    { name := "no-render" }, helpSwitch] }),
  ("init", { switches := [
    { name := "path", letter := some 'p', takesValue := true },
    { name := "force" }, helpSwitch] }),
  ("check", { switches := [{ name := "strict" }, helpSwitch] }),
  ("render", { switches := [helpSwitch] })]

/-- The word that asks for help in place of a command. -/
def helpCommand : String := "help"

/-- The options in front of the command, and the commands. -/
def topLevel : Level where
  switches := [
    { name := "config", letter := some 'c', takesValue := true },
    { name := "verbose", letter := some 'v' }, helpSwitch,
    { name := "version", letter := some 'V', answer := some .displayVersion }]
  commands := commandLevels.map Prod.fst ++ [helpCommand]

/-- The command that its name and options make. -/
def commandOf (name : String) (g : Given) : Command :=
  if name = "generate" then .generate (g.value? "input") (g.value? "output") (g.has "no-render")
  else if name = "init" then .init (g.value? "path") (g.has "force")
  else if name = "check" then .check (g.has "strict")
  else .render

/-- What comes of asking for help on a command. -/
def help : List String → UsageFault
  | [] => .displayHelp
  | [name] => if topLevel.commands.contains name then .displayHelp else .invalidSubcommand
  | _ => .invalidSubcommand

/-- Reads a whole command line. -/
def ofArgs (args : List String) : Except UsageFault Invocation := do
  let (top, found) ← topLevel.read {} args
  match found with
  | none =>
    let top ← top.settle
    throw (if top.values.isEmpty then .displayHelpOnMissingArgumentOrSubcommand else .missingSubcommand)
  | some (name, rest) =>
    match commandLevels.lookup name with
    | none => throw (help rest)
    | some level =>
      let given ← level.readAll rest
      let top ← top.settle
      return {
        config? := top.value? "config"
        verbose := top.has "verbose"
        command := commandOf name given }

end Invocation

end TraceDiagram
