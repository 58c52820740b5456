import TraceDiagram.Decimal.Read
import TraceDiagram.Launch
import TraceDiagram.Text.Scan

/-! # A small shell

What may be launched in place of a program that draws diagrams: a shell with a few commands. They end, say
something or change files.

* **`Shell.Command`** some words, and the file that what the command says goes to; **`Shell.script`** reads
  commands.
* **`Shell.run`** runs commands.
* **`Shell.launcher`** launches programs.
-/

namespace TraceDiagram.Shell

open Text Text.Scan

/-! ## Scripts -/

/-- A file that what a command says goes to. -/
structure Target where
  /-- Whether it goes to the end of the file. -/
  atTheEnd : Bool
  /-- The path of the file. -/
  path : String
  deriving DecidableEq, Repr

/-- Some words, and the file that what the command says goes to. -/
structure Command where
  /-- The words. -/
  words : List String := []
  /-- The file. -/
  target : Option Target := none
  deriving DecidableEq, Repr

/-- When a command is run, after the one in front of it. -/
inductive Link where
  /-- In any case. -/
  | always
  /-- If that one succeeded. -/
  | onSuccess
  /-- If that one failed. -/
  | onFailure
  deriving DecidableEq, Repr

/-- Whether `c` stands for itself in a word. -/
def isWordChar (c : Char) : Bool := !" \t\n;&|<>()'\"\\".toList.contains c

/-- Whether `c` is a blank between words. -/
def isSpace (c : Char) : Bool := c = ' ' || c = '\t'

/-- Reads a character behind a backslash between double quotes, where most backslashes are kept. -/
def escapedChar : Scan (List Char) := do
  let b ← char (· = '\\')
  let c ← char fun _ => true
  return if "$\"\\".toList.contains c then [c] else [b, c]

/-- Reads what stands between quotes of a kind. -/
def quotedWith (quote : Char) (piece : Scan (List Char)) : Scan (List Char) := do
  let _ ← char (· = quote)
  let pieces ← many piece
  let _ ← char (· = quote)
  return pieces.flatten

/-- Reads a character of a kind, as a piece. -/
def single (p : Char → Bool) : Scan (List Char) := (fun c => [c]) <$> char p

/-- Reads a piece of a word. -/
def wordPiece : Scan (List Char) := firstOf [
  single isWordChar,
  quotedWith '\'' (single (· ≠ '\'')),
  quotedWith '"' (single (fun c => c ≠ '"' && c ≠ '\\') <|> escapedChar),
  char (· = '\\') *> single fun _ => true]

/-- Reads a word. -/
def word : Scan String := do
  let piece ← wordPiece
  let pieces ← many wordPiece
  return String.ofList (piece ++ pieces.flatten)

/-- Reads blanks, if any. -/
def spaces : Scan Unit := charsWhile isSpace *> pure ()

/-- Reads the file that what a command says goes to. -/
def target : Scan Target := do
  let atTheEnd ← exactly ">>" *> pure true <|> exactly ">" *> pure false
  spaces
  return { atTheEnd := atTheEnd, path := ← word }

/-- Reads one part of a command and adds it. -/
def extend : Scan (Command → Command) := firstOf [
  (fun t c => { c with target := some t }) <$> target,
  (fun w c => { c with words := c.words ++ [w] }) <$> word]

/-- Reads a command. -/
def command : Scan Command := do
  let parts ← many (spaces *> extend)
  spaces
  return parts.foldl (fun c part => part c) {}

/-- Reads what stands between two commands. -/
def link : Scan Link := firstOf [
  exactly "&&" *> pure .onSuccess, exactly "||" *> pure .onFailure,
  (exactly ";" <|> exactly "\n") *> pure .always]

/-- Reads a whole script. -/
def script : Scan (List (Link × Command)) := do
  let first ← command
  let rest ← many (Prod.mk <$> link <*> command)
  atEnd
  return (.always, first) :: rest

/-! ## Commands -/

/-- What a command says, and how it ends. -/
structure Reply where
  /-- What it says. -/
  text : String := ""
  /-- How it ends. -/
  status : Nat := 0

/-- A reply of success or failure. -/
def Reply.ofBool (b : Bool) : Reply := { status := if b then 0 else 1 }

/-- The text that a format makes of further words. -/
def formatted : List Char → List String → List Char
  | '\\' :: 'n' :: rest, words => '\n' :: formatted rest words
  | '\\' :: 't' :: rest, words => '\t' :: formatted rest words
  | '\\' :: '\\' :: rest, words => '\\' :: formatted rest words
  | '%' :: '%' :: rest, words => '%' :: formatted rest words
  | '%' :: 's' :: rest, words => (words.headD "").toList ++ formatted rest words.tail
  | c :: rest, words => c :: formatted rest words
  | [], _ => []

/-- The signal of a number or name. -/
def signalOf? (name : String) : Option Nat :=
  match readInt? 10 name.toList with
  | some n => some n.toNat
  | none =>
    (signalNames.find? fun p => p.2 = name || "SIG" ++ p.2 = name).map Prod.fst

/-- The word for the shell itself. -/
def itself : String := "$$"

/-- The signal that the shell sends to itself. -/
def selfSignal? : List String → Option Nat
  | ["kill", "-s", name, who] => if who = itself then signalOf? name else none
  | ["kill", option, who] =>
    match option.toList with
    | '-' :: name => if who = itself then signalOf? (String.ofList name) else none
    | _ => none
  | ["kill", who] => if who = itself then some 15 else none
  | _ => none

/-- How the words end the shell, if they do. -/
def ending? (status : Nat) : List String → Option ExitStatus
  | ["exit"] => some (.code status)
  | "exit" :: n :: _ =>
    match digitsValue? 10 n.toList with
    | some n => some (.code (n % 256))
    | none => some (.code 2)
  | words => (selfSignal? words).map .signal

/-- A change of the files that may fail. -/
def changed (fs : FileSystem) : Except FileFault FileSystem → Reply × FileSystem
  | .ok after => ({}, after)
  | .error _ => (.ofBool false, fs)

/-- What the words say and do. -/
def perform (fs : FileSystem) : List String → Reply × FileSystem
  | [] | [":"] | ["true"] => ({}, fs)
  | ["false"] => (.ofBool false, fs)
  | "echo" :: "-n" :: words => ({ text := joinStrings " " words }, fs)
  | "echo" :: words => ({ text := joinStrings " " words ++ "\n" }, fs)
  | "printf" :: form :: words => ({ text := String.ofList (formatted form.toList words) }, fs)
  | ["pwd"] => ({ text := FileSystem.pathOf fs.workingPlace ++ "\n" }, fs)
  | ["cd", path] =>
    match fs.find path, fs.locate path with
    | .ok .directory, .ok place => ({}, { fs with workingPlace := place })
    | _, _ => ({ status := 2 }, fs)
  | ["cat", path] =>
    match fs.readText path with
    | .ok text => ({ text := text }, fs)
    | .error _ => (.ofBool false, fs)
  | ["touch", path] => if fs.holds path then ({}, fs) else changed fs (fs.write path [])
  | ["mkdir", "-p", path] =>
    match fs.makeDirectories path with
    | (.ok (), after) => ({}, after)
    | (.error _, after) => (.ofBool false, after)
  | ["mkdir", path] => changed fs (fs.makeDirectory path)
  | ["test", "-e", path] => (.ofBool (fs.holds path), fs)
  | ["test", "-d", path] => (.ofBool (fs.holdsDirectory path), fs)
  | ["test", "-f", path] => (.ofBool (fs.holds path && !fs.holdsDirectory path), fs)
  | _ => ({ status := 127 }, fs)

/-- Sends what a command says to a file. -/
def send (fs : FileSystem) (text : String) (t : Target) : Except FileFault FileSystem :=
  let before := if t.atTheEnd then (fs.read t.path).toOption.getD [] else []
  fs.write t.path (before ++ encode text)

/-- Runs one command: how it ends, and the files then. -/
def runCommand (fs : FileSystem) (c : Command) : Nat × FileSystem :=
  let (reply, after) := perform fs c.words
  match c.target with
  | none => (reply.status, after)
  | some t =>
    match send after reply.text t with
    | .ok sent => (reply.status, sent)
    | .error _ => (2, fs)

/-- Whether a command is run after one that ended with a status. -/
def Link.applies (status : Nat) : Link → Bool
  | .always => true
  | .onSuccess => status = 0
  | .onFailure => status ≠ 0

/-- Runs commands: how the shell ends, and the files then. -/
def run (fs : FileSystem) (status : Nat) : List (Link × Command) → ExitStatus × FileSystem
  | [] => (.code status, fs)
  | (l, c) :: rest =>
    if l.applies status then
      match ending? status c.words with
      | some s => (s, fs)
      | none =>
        let (status, fs) := runCommand fs c
        run fs status rest
    else run fs status rest

/-- Runs the text of a script. -/
def runText (fs : FileSystem) (text : String) : ExitStatus × FileSystem :=
  match script text.toList with
  | some (commands, _) => run fs 0 commands
  | none => (.code 2, fs)

/-! ## Programs -/

/-- Runs a program. -/
def runProgram (fs : FileSystem) (name : String) (args : List String) : ExitStatus × FileSystem :=
  if name = "sh" then
    match args with
    | [] => (.code 0, fs)
    | ["-c"] => (.code 2, fs)
    | "-c" :: text :: _ => runText fs text
    | path :: _ =>
      match fs.readText path with
      | .ok text => runText fs text
      | .error _ => (.code 2, fs)
  else
    let (reply, after) := perform fs (name :: args)
    (.code reply.status, after)

/-- Launches programs in a directory. -/
def launcher : Launcher := fun l fs =>
  match fs.find l.directory, fs.locate l.directory with
  | .ok .directory, .ok place =>
    match ({ fs with workingPlace := place } : FileSystem).findProgram l.executable with
    | .error e => (.error e, fs)
    | .ok name =>
      let (status, after) := runProgram { fs with workingPlace := place } name l.args
      (.ok status, { after with workingPlace := fs.workingPlace })
  | .error e, _ => (.error e, fs)
  | _, .error e => (.error e, fs)
  | .ok _, .ok _ => (.error .notADirectory, fs)

end TraceDiagram.Shell
