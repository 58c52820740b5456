import TraceDiagram.Proofs.Files
import TraceDiagram.Task

/-! # What tasks do to files

A task goes on with the files that its steps have left, whatever has been logged.

* **`Task.effect`** the result of a task, and the files then.
* **`Task.IgnoresLog`** what has been logged before has no influence. Every step is such, and by
  **`Task.IgnoresLog.bind`** so is what is made of them.
* **`Task.effect_bind`** a task and what follows it.
* **`Task.saves_saveFile`** a file that is written, after the directories above its path have been made. -/

namespace TraceDiagram

namespace Task

variable {α β : Type}

/-- The result of a task, and the files then. -/
def effect (t : Task α) (p : Progress) : Except Failure α × FileSystem :=
  let (result, q) := t.run.run p
  (result, q.files)

/-- What has been logged before has no influence. -/
def IgnoresLog (t : Task α) : Prop :=
  ∀ files log, t.effect ⟨files, log⟩ = t.effect { files := files }

/-! ## One after the other -/

/-- A task goes on with the files that its first step has left, unless that fails. -/
theorem effect_bind {t : Task α} {k : α → Task β} (hk : ∀ a, (k a).IgnoresLog) (p : Progress) :
    (t >>= k).effect p = match t.effect p with
      | (.ok a, files) => (k a).effect { files := files }
      | (.error e, files) => (.error e, files) := by
  unfold effect
  rw [ExceptT.run_bind, StateT.run_bind]
  rcases t.run.run p with ⟨_ | a, q⟩
  · rfl
  · exact hk a q.files q.log

theorem IgnoresLog.bind {t : Task α} {k : α → Task β} (h : t.IgnoresLog) (hk : ∀ a, (k a).IgnoresLog) :
    (t >>= k).IgnoresLog := by
  intro files log
  rw [effect_bind hk, effect_bind hk, h]

/-- If a task succeeds then so do its first step and what follows it. -/
theorem exists_of_effect_bind {t : Task α} {k : α → Task β} (hk : ∀ a, (k a).IgnoresLog) {p : Progress} {b : β}
    {after : FileSystem} (h : (t >>= k).effect p = (.ok b, after)) :
    ∃ a files, t.effect p = (.ok a, files) ∧ (k a).effect { files := files } = (.ok b, after) := by
  rw [effect_bind hk] at h
  cases hfirst : t.effect p with
  | mk result files =>
    rw [hfirst] at h
    cases result with
    | error e => cases h
    | ok a => exact ⟨a, files, rfl, h⟩

/-- What has been logged before can be left out. -/
theorem IgnoresLog.effect_eq {t : Task α} (h : t.IgnoresLog) (p : Progress) :
    t.effect p = t.effect { files := p.files } :=
  h p.files p.log

/-! ## Steps -/

section Steps

variable (p : Progress)

@[simp] theorem effect_pure (a : α) : (pure a : Task α).effect p = (.ok a, p.files) := rfl

@[simp] theorem effect_throw (e : Failure) : (throw e : Task α).effect p = (.error e, p.files) := rfl

/-- A task may look at the files that are there. -/
theorem effect_get_bind (k : Progress → Task α) : (get >>= k).effect p = (k p).effect p := rfl

@[simp] theorem effect_sayAll (entries : List LogEntry) : (sayAll entries).effect p = (.ok (), p.files) := rfl

@[simp] theorem effect_say (entry : LogEntry) : (say entry).effect p = (.ok (), p.files) := rfl

@[simp] theorem effect_look (f : FileSystem → α) : (look f).effect p = (.ok (f p.files), p.files) := rfl

@[simp] theorem effect_attempt (f : FileSystem → Except FileFault α × FileSystem) :
    (attempt f).effect p = (.ok (f p.files).1, (f p.files).2) := rfl

@[simp] theorem effect_ofExcept (result : Except Failure α) : (ofExcept result).effect p = (result, p.files) := by
  cases result <;> rfl

@[simp] theorem effect_ask (cause : FileFault → Failure) (f : FileSystem → Except FileFault α) :
    (ask cause f).effect p = ((f p.files).mapError cause, p.files) := by
  rw [ask, effect_get_bind]
  cases f p.files <;> rfl

@[simp] theorem effect_change (cause : FileFault → Failure) (f : FileSystem → Except FileFault FileSystem) :
    (change cause f).effect p = match f p.files with
      | .ok files => (.ok (), files)
      | .error e => (.error (cause e), p.files) := by
  have hset : ∀ files, (modify fun p => { p with files := files } : Task Unit).IgnoresLog := fun _ _ _ => rfl
  unfold change
  rw [effect_bind hset, effect_ask]
  cases f p.files <;> rfl

/-- If files are changed then it is because they can be. -/
theorem change_eq_ok {cause : FileFault → Failure} {f : FileSystem → Except FileFault FileSystem} {p : Progress}
    {after : FileSystem} (h : (change cause f).effect p = (.ok (), after)) : f p.files = .ok after := by
  rw [effect_change] at h
  cases hfiles : f p.files with
  | error e =>
    rw [hfiles] at h
    cases h
  | ok files =>
    rw [hfiles] at h
    cases h
    rfl

end Steps

theorem ignoresLog_pure (a : α) : (pure a : Task α).IgnoresLog := fun _ _ => rfl

theorem ignoresLog_throw (e : Failure) : (throw e : Task α).IgnoresLog := fun _ _ => rfl

theorem ignoresLog_say (entry : LogEntry) : (say entry).IgnoresLog := fun _ _ => rfl

theorem ignoresLog_look (f : FileSystem → α) : (look f).IgnoresLog := fun _ _ => rfl

theorem ignoresLog_attempt (f : FileSystem → Except FileFault α × FileSystem) : (attempt f).IgnoresLog :=
  fun _ _ => rfl

theorem ignoresLog_ofExcept (result : Except Failure α) : (ofExcept result).IgnoresLog := by
  intro files log
  simp

theorem ignoresLog_ask (cause : FileFault → Failure) (f : FileSystem → Except FileFault α) :
    (ask cause f).IgnoresLog := by
  intro files log
  simp

theorem ignoresLog_change (cause : FileFault → Failure) (f : FileSystem → Except FileFault FileSystem) :
    (change cause f).IgnoresLog := by
  intro files log
  simp

theorem ignoresLog_get {k : Progress → Task α} (hk : ∀ p, (k p).IgnoresLog)
    (hfiles : ∀ files log, k ⟨files, log⟩ = k { files := files }) : (get >>= k).IgnoresLog := by
  intro files log
  rw [effect_get_bind, effect_get_bind, hfiles]
  exact hk _ files log

/-! ## Files that are left alone -/

/-- A task that changes no files. -/
def KeepsFiles (t : Task α) : Prop := ∀ p, (t.effect p).2 = p.files

/-- The files do not change after the first step of a task if the others keep them. -/
theorem files_bind {t : Task α} {k : α → Task β} (hk : ∀ a, (k a).KeepsFiles) (p : Progress) :
    ((t >>= k).effect p).2 = (t.effect p).2 := by
  unfold effect
  rw [ExceptT.run_bind, StateT.run_bind]
  rcases t.run.run p with ⟨_ | a, q⟩
  · rfl
  · exact hk a q

theorem KeepsFiles.bind {t : Task α} {k : α → Task β} (h : t.KeepsFiles) (hk : ∀ a, (k a).KeepsFiles) :
    (t >>= k).KeepsFiles :=
  fun p => (files_bind hk p).trans (h p)

/-! ## Files and the directories above them -/

theorem ignoresLog_makeParent (cause : FileFault → Failure) (path : String) :
    (makeParent cause path).IgnoresLog := by
  unfold makeParent
  split
  · exact ignoresLog_pure ()
  · split
    · exact ignoresLog_pure ()
    · refine (ignoresLog_attempt _).bind ?_
      rintro (e | ⟨⟩)
      · exact ignoresLog_throw (cause e)
      · exact ignoresLog_pure ()

/-- Before a file is written, the missing directories above its path are made, and nothing else. -/
theorem makes_makeParent (cause : FileFault → Failure) (path : String) (p : Progress) :
    FileSystem.Makes (Path.Above · path) p.files ((makeParent cause path).effect p).2 := by
  unfold makeParent
  split
  · exact .refl p.files
  · next dir hdir =>
    split
    · exact .refl p.files
    · have hmakes : FileSystem.Makes (Path.Above · path) p.files (p.files.makeDirectories dir).2 := by
        refine (FileSystem.makes_makeDirectories p.files dir).mono fun outer houter => ?_
        rcases houter with rfl | houter
        · exact .parent hdir
        · exact .further hdir houter
      -- what follows the attempt only says whether it has failed
      rw [files_bind, effect_attempt]
      · exact hmakes
      · rintro (e | ⟨⟩) <;> exact fun _ => rfl

/-- Writes a file, after making the directories above its path. -/
def saveFile (cause : FileFault → Failure) (path text : String) : Task Unit := do
  makeParent cause path
  change cause (·.writeText path text)

theorem ignoresLog_saveFile (cause : FileFault → Failure) (path text : String) :
    (saveFile cause path text).IgnoresLog :=
  (ignoresLog_makeParent cause path).bind fun _ => ignoresLog_change cause _

/-- **A file that is saved** is there, and nothing else has changed but that there may be new directories above
its path. -/
theorem saves_saveFile {cause : FileFault → Failure} {path text : String} {p : Progress} {after : FileSystem}
    (h : (saveFile cause path text).effect p = (.ok (), after)) :
    FileSystem.Saves (Path.Above · path) path (Text.encode text) p.files after := by
  obtain ⟨_, made, hmade, hchange⟩ := exists_of_effect_bind (fun _ => ignoresLog_change cause _) h
  have hmakes := makes_makeParent cause path p
  rw [hmade] at hmakes
  exact FileSystem.saves_of_write hmakes (change_eq_ok hchange)

end Task

end TraceDiagram
