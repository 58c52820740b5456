import TraceDiagram.Proofs.ConfigFiles
import TraceDiagram.Proofs.Default.Document
import TraceDiagram.Proofs.Effects

/-! # Configurations that are written to a directory

A configuration that has been written to a directory is in force there.

* **`loadConfig_of_readConfig`** a file with the preferred name is loaded, whatever other files there are.
* **`Compiler.saveIn`** makes a directory and writes a configuration there; **`Compiler.saves_saveIn`** says what is
  left then.
* **`init_config`** the configuration is loaded again in the directory, no other file has changed, and a file that
  is there is not replaced unless that is wanted. -/

namespace TraceDiagram

open FileSystem

/-! ## Loading -/

/-- What is loaded depends only on what the path leads to. -/
theorem readConfig_congr {fs fs' : FileSystem} {path path' : String} (h : fs.find path = fs'.find path') :
    readConfig fs path = readConfig fs' path' := by
  simp only [readConfig, readText, FileSystem.read, h]

/-- A configuration is loaded from the bytes of its text. -/
theorem readConfig_of_read {fs : FileSystem} {path : String} {config : Config}
    (h : fs.read path = .ok (Text.encode config.write)) : readConfig fs path = .ok config := by
  simp only [readConfig, readText, h, Text.decode?_encode, config.read?_write]

/-- The file with the preferred name is loaded, whatever other files there are. -/
theorem loadConfig_of_readConfig {fs : FileSystem} {config : Config}
    (h : readConfig fs "Traceflow.toml" = .ok config) : loadConfig fs none = .ok config := by
  have hholds : fs.holds "Traceflow.toml" = true := by
    unfold readConfig readText at h
    cases hread : fs.read "Traceflow.toml" with
    | error e =>
      rw [hread] at h
      cases h
    | ok bytes => exact holds_of_read hread
  have hfound : configNames.find? fs.holds = some "Traceflow.toml" := List.find?_cons_of_pos hholds
  rw [loadConfig, hfound]
  exact h

/-! ## Writing -/

namespace Compiler

variable (c : Compiler)

/-- Writes the configuration to a directory once that has been made, or fails if it has not. -/
def saveOnce (dir : String) : Except FileFault Unit → Task Unit
  | .error e => throw (.file e)
  | .ok () => do
    Task.change .io (·.writeText (Path.join dir "Traceflow.toml") c.config.write)
    Task.say (.info ("✅ Wrote " ++ Path.join dir "Traceflow.toml"))

/-- Makes a directory and writes the configuration there. -/
def saveIn (dir : String) : Task Unit := Task.attempt (·.makeDirectories dir) >>= c.saveOnce dir

/-- Writes the configuration to a directory, unless there is one and it is not to be replaced. -/
def initIn (dir : String) (force : Bool) : Task Unit := do
  Task.say (.info ("Initializing Traceflow in: " ++ dir))
  if (← Task.look (·.holds (Path.join dir "Traceflow.toml"))) && !force then
    throw (.config (.alreadyThere (Path.join dir "Traceflow.toml")))
  else c.saveIn dir

/-- If no directory is named then the configuration is written to the working directory. -/
theorem init_eq (dir? : Option String) (force : Bool) : c.init dir? force = get >>= fun (p : Progress) =>
    c.initIn (dir?.getD (pathOf p.files.workingPlace)) force := rfl

theorem ignoresLog_saveOnce (dir : String) (made : Except FileFault Unit) : (c.saveOnce dir made).IgnoresLog := by
  obtain e | ⟨⟩ := made
  · exact Task.ignoresLog_throw _
  · exact (Task.ignoresLog_change _ _).bind fun _ => Task.ignoresLog_say _

theorem ignoresLog_saveIn (dir : String) : (c.saveIn dir).IgnoresLog :=
  (Task.ignoresLog_attempt _).bind (c.ignoresLog_saveOnce dir)

/-- If a configuration has been written then the directory has been made first. -/
theorem exists_made_of_saveIn {dir : String} {p : Progress} {after : FileSystem}
    (h : (c.saveIn dir).effect p = (.ok (), after)) :
    ∃ made, p.files.makeDirectories dir = (.ok (), made) ∧
      made.writeText (Path.join dir "Traceflow.toml") c.config.write = .ok after := by
  obtain ⟨result, made, hattempt, hsaved⟩ := Task.exists_of_effect_bind (c.ignoresLog_saveOnce dir) h
  rw [Task.effect_attempt] at hattempt
  obtain ⟨hresult, hmade⟩ := Prod.mk.inj hattempt
  cases result with
  | error e => cases hsaved
  | ok u =>
    rw [saveOnce] at hsaved
    obtain ⟨_, written, hchange, hsaid⟩ := Task.exists_of_effect_bind (fun _ => Task.ignoresLog_say _) hsaved
    have hwrite := Task.change_eq_ok hchange
    cases hsaid
    exact ⟨made, Prod.ext (Except.ok.inj hresult) hmade, hwrite⟩

/-- **A configuration that is written** is in its file, and the directory is there. Nothing else has changed but
that there may be new directories on the way to it. -/
theorem saves_saveIn {dir : String} {p : Progress} {after : FileSystem}
    (h : (c.saveIn dir).effect p = (.ok (), after)) :
    Saves (fun outer => outer = dir ∨ Path.Above outer dir) (Path.join dir "Traceflow.toml")
        (Text.encode c.config.write) p.files after ∧
      (dir ≠ "" → after.holdsDirectory dir = true) := by
  obtain ⟨made, hmade, hwrite⟩ := c.exists_made_of_saveIn h
  have hmakes := makes_makeDirectories p.files dir
  rw [hmade] at hmakes
  refine ⟨saves_of_write hmakes hwrite, fun hdir => holdsDirectory_of_write hwrite ?_⟩
  have hthere := holdsDirectory_of_makeDirectories hdir (congrArg Prod.fst hmade)
  rwa [hmade] at hthere

theorem effect_initIn (dir : String) (force : Bool) (p : Progress) :
    (c.initIn dir force).effect p =
      if p.files.holds (Path.join dir "Traceflow.toml") && !force then
        (.error (.config (.alreadyThere (Path.join dir "Traceflow.toml"))), p.files)
      else (c.saveIn dir).effect { files := p.files } := by
  rw [initIn, Task.effect_bind, Task.effect_say]
  · change (if p.files.holds _ && !force then throw _ else c.saveIn dir : Task Unit).effect { files := p.files } = _
    split
    · exact Task.effect_throw _ _
    · rfl
  · refine fun _ => (Task.ignoresLog_look _).bind fun there => ?_
    split
    · exact Task.ignoresLog_throw _
    · exact c.ignoresLog_saveIn dir

/-- **A configuration is in force** in the directory that it has been written to, whatever other configurations
are there. No other file has changed, and a file that is there is replaced only if that is wanted. -/
theorem init_config (dir? : Option String) (force : Bool) (p : Progress) :
    let dir := dir?.getD (pathOf p.files.workingPlace)
    let file := Path.join dir "Traceflow.toml"
    (∀ after, (c.init dir? force).effect p = (.ok (), after) →
      (∃ there, after.enter dir = .ok there ∧ loadConfig there none = .ok c.config) ∧
      Saves (fun outer => outer = dir ∨ Path.Above outer dir) file (Text.encode c.config.write) p.files after) ∧
    (p.files.holds file = true → force = false →
      (c.init dir? force).effect p = (.error (.config (.alreadyThere file)), p.files)) := by
  intro dir file
  have heffect : (c.init dir? force).effect p = if p.files.holds file && !force then
      (.error (.config (.alreadyThere file)), p.files) else (c.saveIn dir).effect { files := p.files } := by
    rw [init_eq, Task.effect_get_bind, effect_initIn]
  refine ⟨fun after h => ?_, fun hthere hforce => ?_⟩
  · have hsaved : (c.saveIn dir).effect { files := p.files } = (.ok (), after) := by
      rw [heffect] at h
      split at h
      · cases h
      · exact h
    obtain ⟨hsaves, hdir⟩ := c.saves_saveIn hsaved
    obtain ⟨there, henter⟩ := exists_enter hdir
    have hfind : there.find "Traceflow.toml" = after.find file :=
      find_of_enter henter (by decide) (by decide +kernel)
    have hread : readConfig there "Traceflow.toml" = .ok c.config := by
      rw [readConfig_congr hfind, readConfig_of_read hsaves.read]
    exact ⟨⟨there, henter, loadConfig_of_readConfig hread⟩, hsaves⟩
  · rw [heffect, hthere, hforce]
    rfl

end Compiler

/-- A directory with a file and a directory that have the other customary names. -/
def crowded : FileSystem where
  entries := Dict.ofList [(["conf"], .directory), (["conf", "traceflow.toml"], .file [0x5b]),
    (["conf", ".traceflow.toml"], .directory)]

/-- The configuration is in force in spite of them, and is not replaced the next time. -/
theorem init_config_crowded :
    ∃ after, (defaultCompiler.init (some "/conf") false).effect { files := crowded } = (.ok (), after) ∧
      (∃ there, after.enter "/conf" = .ok there ∧ loadConfig there none = .ok defaultCompiler.config) ∧
      after.holds (Path.join "/conf" "Traceflow.toml") = true ∧
      (defaultCompiler.init (some "/conf") false).effect { files := after } =
        (.error (.config (.alreadyThere (Path.join "/conf" "Traceflow.toml"))), after) := by
  have hwritten : ((defaultCompiler.init (some "/conf") false).effect { files := crowded }).1 = .ok () := by
    decide +kernel
  have hafter := Prod.ext hwritten rfl
  obtain ⟨hinforce, hsaves⟩ := (defaultCompiler.init_config (some "/conf") false { files := crowded }).1 _ hafter
  have hthere := holds_of_read hsaves.read
  have hrefused := (defaultCompiler.init_config (some "/conf") false { files := _ }).2 hthere rfl
  exact ⟨_, hafter, hinforce, hthere, hrefused⟩

end TraceDiagram
