import TraceDiagram.FileSystem

/-! # Changes of files

What is left of the files that were there when directories are made and a file is written.

* **`Path.Above`** the paths above a path.
* **`FileSystem.NewDirectory`** a directory where nothing was; **`FileSystem.Stays`** what is left alone but for
  such directories.
* **`FileSystem.Makes`** a change that makes directories; by **`makes_makeDirectories`** nothing else is done to
  make them.
* **`FileSystem.Saves`** a change that writes a file, too; by **`saves_of_write`** when directories are made first
  and then the file is written.
* **`FileSystem.enter`** the files seen from a directory; by **`find_of_enter`** paths lead there to where they
  lead when they are joined to the path of the directory. -/

namespace TraceDiagram

/-! ## Paths -/

namespace Path

/-- A path above another one is its parent, or above its parent. -/
inductive Above (top : String) : String → Prop where
  /-- The parent of a path. -/
  | parent {path : String} (h : parent? path = some top) : Above top path
  /-- A path above the parent. -/
  | further {path outer : String} (h : parent? path = some outer) (above : Above top outer) : Above top path

/-- The pieces of a path that are not empty. -/
def steps (p : String) : List String := (pieces p).filter fun piece => !piece.isEmpty

section Joining

variable {p q : String}

/-- A slash divides the steps in front of it from those behind it. -/
theorem steps_of_toList {before after : List Char} (h : p.toList = before ++ '/' :: after) :
    steps p = steps (String.ofList before) ++ steps (String.ofList after) := by
  simp [steps, pieces, h, Text.split_append_cons]

/-- A path that is seen from another one is that path, then a slash unless there is one, and then the path. -/
theorem toList_join (hp : p ≠ "") (hq : isAbsolute q = false) :
    (∃ front, p.toList = front ++ ['/'] ∧ (join p q).toList = front ++ '/' :: q.toList) ∨
      (join p q).toList = p.toList ++ '/' :: q.toList := by
  have hrelative : ¬(isAbsolute q || p.isEmpty) = true := by simp [hq, hp]
  rw [join, if_neg hrelative]
  split
  · next hslash =>
    obtain ⟨front, hfront⟩ := List.getLast?_eq_some_iff.1 hslash
    exact .inl ⟨front, hfront, by simp [hfront]⟩
  · exact .inr (by simp)

/-- Its steps come after the steps of that path. -/
theorem steps_join (hq : isAbsolute q = false) : steps (join p q) = steps p ++ steps q := by
  have hnone : steps "" = [] := by decide +kernel
  by_cases hp : p = ""
  · rw [hp, hnone, join, if_pos (by simp), List.nil_append]
  · rcases toList_join hp hq with ⟨front, hfront, hall⟩ | hall
    · have hempty : steps (String.ofList []) = [] := hnone
      rw [steps_of_toList hall, steps_of_toList hfront, hempty]
      simp
    · rw [steps_of_toList hall]
      simp

/-- It begins where that path does. -/
theorem isAbsolute_join (hq : isAbsolute q = false) : isAbsolute (join p q) = isAbsolute p := by
  by_cases hp : p = ""
  · rw [hp, join, if_pos (by simp), hq]
    rfl
  · rcases toList_join hp hq with ⟨front, hfront, hall⟩ | hall
    · rw [isAbsolute, isAbsolute, hall, hfront]
      cases front <;> rfl
    · obtain ⟨c, rest, hcons⟩ := List.exists_cons_of_ne_nil (fun h => hp (String.toList_inj.1 h) : p.toList ≠ [])
      rw [isAbsolute, isAbsolute, hall, hcons]
      rfl

/-- It ends as the path does. -/
theorem getLast?_join (hp : p ≠ "") (hne : q ≠ "") (hq : isAbsolute q = false) :
    (join p q).toList.getLast? = q.toList.getLast? := by
  obtain ⟨c, hc⟩ := Option.ne_none_iff_exists'.1 fun h => hne (String.toList_inj.1 (List.getLast?_eq_none_iff.1 h))
  have hbehind : ∀ front : List Char, (front ++ '/' :: q.toList).getLast? = q.toList.getLast? := by
    intro front
    simp [List.getLast?_append, List.getLast?_cons, hc]
  rcases toList_join hp hq with ⟨front, -, hall⟩ | hall
  · rw [hall, hbehind]
  · rw [hall, hbehind]

end Joining

end Path

namespace FileSystem

/-- The ancestors of a path are the path itself and the paths above it. -/
theorem eq_or_above_of_mem_ancestorsUpTo {steps : Nat} {path outer : String}
    (h : outer ∈ ancestorsUpTo steps path) : outer = path ∨ Path.Above outer path := by
  induction steps generalizing path with
  | zero => cases h
  | succ steps ih =>
    rw [ancestorsUpTo, List.mem_cons] at h
    refine h.imp_right fun h => ?_
    cases hparent : Path.parent? path with
    | none =>
      rw [hparent] at h
      cases h
    | some dir =>
      rw [hparent] at h
      rcases ih h with rfl | habove
      · exact .parent hparent
      · exact .further hparent habove

/-! ## New directories -/

variable {before mid after : FileSystem} {paths more : String → Prop} {path : String}

/-- There is a directory where nothing was, and one of the paths leads to it. -/
structure NewDirectory (paths : String → Prop) (before after : FileSystem) (place : Place) : Prop where
  /-- There was nothing. -/
  missing : before.entryAt place = none
  /-- There is a directory. -/
  made : after.entryAt place = some .directory
  /-- A path leads to it. -/
  path : ∃ path, paths path ∧ after.locate path = .ok place

/-- What is at a place has been there before, or is a new directory. -/
def Stays (paths : String → Prop) (before after : FileSystem) (place : Place) : Prop :=
  after.entryAt place = before.entryAt place ∨ NewDirectory paths before after place

namespace Stays

variable {place : Place}

theorem mono (h : Stays paths before after place) (hmore : ∀ path, paths path → more path) :
    Stays more before after place := by
  refine h.imp_right fun hnew => ?_
  obtain ⟨path, hpath, hlocate⟩ := hnew.path
  exact ⟨hnew.missing, hnew.made, path, hmore path hpath, hlocate⟩

theorem trans (h : Stays paths before mid place) (h' : Stays paths mid after place)
    (hkeeps : mid.Extends after) : Stays paths before after place := by
  rcases h with hsame | hnew
  · rcases h' with hsame' | hnew'
    · exact .inl (hsame'.trans hsame)
    · exact .inr ⟨hsame ▸ hnew'.missing, hnew'.made, hnew'.path⟩
  · -- what has been made first stays, and the path to it as well
    obtain ⟨path, hpath, hlocate⟩ := hnew.path
    exact .inr ⟨hnew.missing, hkeeps.directory place hnew.made, path, hpath, hkeeps.locate hlocate⟩

/-- Where a directory was, there is one. -/
theorem directory (h : Stays paths before after place) (hplace : before.entryAt place = some .directory) :
    after.entryAt place = some .directory := by
  rcases h with hsame | hnew
  · rw [hsame, hplace]
  · exact hnew.made

end Stays

/-- Nothing has changed but that there may be new directories. -/
structure Makes (paths : String → Prop) (before after : FileSystem) : Prop where
  /-- Relative paths are seen from the same place. -/
  workingPlace : after.workingPlace = before.workingPlace
  /-- There may be new directories. -/
  entry : ∀ place, Stays paths before after place

namespace Makes

theorem refl (fs : FileSystem) : Makes paths fs fs := ⟨rfl, fun _ => .inl rfl⟩

theorem keeps (h : Makes paths before after) : before.Extends after :=
  ⟨h.workingPlace, fun place => (h.entry place).directory⟩

theorem mono (h : Makes paths before after) (hmore : ∀ path, paths path → more path) :
    Makes more before after :=
  ⟨h.workingPlace, fun place => (h.entry place).mono hmore⟩

theorem trans (h : Makes paths before mid) (h' : Makes paths mid after) : Makes paths before after :=
  ⟨h'.workingPlace.trans h.workingPlace, fun place => (h.entry place).trans (h'.entry place) h'.keeps⟩

end Makes

/-- A path leads to a directory if there is one at its place. -/
theorem holdsDirectory_iff {fs : FileSystem} : fs.holdsDirectory path = true ↔
    ∃ place, fs.locate path = .ok place ∧ fs.entryAt place = some .directory := by
  unfold holdsDirectory find
  cases hlocate : fs.locate path with
  | error e => simp
  | ok place =>
    cases hentry : fs.entryAt place with
    | none => simp [hentry]
    | some entry =>
      cases entry with
      | directory => simp [hentry]
      | _ => cases meansDirectory path <;> simp [hentry]

/-- A directory is made at the place that its path leads to, if nothing is there. -/
theorem makeDirectory_eq_ok {fs made : FileSystem} (h : fs.makeDirectory path = .ok made) :
    Makes (· = path) fs made ∧ made.holdsDirectory path = true := by
  rw [makeDirectory] at h
  cases hpath : fs.locate path with
  | error e =>
    rw [hpath] at h
    cases h
  | ok place =>
    rw [hpath] at h
    cases hplace : fs.entryAt place with
    | some entry =>
      simp only [hplace] at h
      cases h
    | none =>
      simp only [hplace] at h
      cases h
      have hfree : fs.entryAt place ≠ some .directory := by simp [hplace]
      have hthere := entryAt_put_self hfree .directory
      have hpath' := (Extends.put hfree .directory).locate hpath
      refine ⟨⟨rfl, fun other => ?_⟩, ?_⟩
      · -- only the place of the path is another one than before
        by_cases hother : other = place
        · subst hother
          exact .inr ⟨hplace, hthere, path, rfl, hpath'⟩
        · exact .inl (entryAt_put fs hother _)
      · exact holdsDirectory_iff.2 ⟨place, hpath', hthere⟩

/-- A directory that one makes sure of is there afterwards. -/
theorem ensureDirectory_eq_ok {fs made : FileSystem} (h : fs.ensureDirectory path = .ok made) :
    Makes (· = path) fs made ∧ made.holdsDirectory path = true := by
  rw [ensureDirectory] at h
  cases hmake : fs.makeDirectory path with
  | ok there =>
    rw [hmake] at h
    cases h
    exact makeDirectory_eq_ok hmake
  | error e =>
    simp only [hmake] at h
    split at h
    · next hthere =>
      cases h
      exact ⟨.refl fs, hthere⟩
    · cases h

/-- **Making directories makes no others**, whether it succeeds or not. -/
theorem makes_makeFirst (fs : FileSystem) (dirs : List String) :
    Makes (· ∈ dirs) fs (fs.makeFirst dirs).2 := by
  have hself : ∀ {dir : String} {outer : List String}, ∀ other, other = dir → other ∈ dir :: outer := by simp
  have houter : ∀ {dir : String} {outer : List String}, ∀ other ∈ outer, other ∈ dir :: outer :=
    fun _ h => List.mem_cons_of_mem _ h
  -- along the list: either nothing is done, or the first directory is made, after the others if need be
  fun_induction FileSystem.makeFirst fs dirs with
  | case1 => exact .refl fs
  | case2 dir outer hempty => exact .refl fs
  | case3 dir outer hdir made hmake => exact (makeDirectory_eq_ok hmake).1.mono hself
  | case4 dir outer hdir hmissing e first hfirst ih =>
    rw [hfirst] at ih
    exact ih.mono houter
  | case5 dir outer hdir hmissing first hfirst made hmake ih =>
    rw [hfirst] at ih
    exact (ih.mono houter).trans ((ensureDirectory_eq_ok hmake).1.mono hself)
  | case6 dir outer hdir hmissing first hfirst e hfail ih =>
    rw [hfirst] at ih
    exact ih.mono houter
  | case7 dir outer hdir e hfault hfail hthere => exact .refl fs
  | case8 dir outer hdir e hfault hfail hthere => exact .refl fs

/-- If it succeeds then the first directory is there, unless its path is empty. -/
theorem holdsDirectory_of_makeFirst {fs : FileSystem} {dirs : List String}
    (h : (fs.makeFirst dirs).1 = .ok ()) :
    ∀ dir ∈ dirs.head?, dir ≠ "" → (fs.makeFirst dirs).2.holdsDirectory dir = true := by
  revert h
  fun_cases FileSystem.makeFirst fs dirs with
  | case1 => simp
  | case2 dir outer hempty =>
    rintro - dir ⟨⟩ hdir
    exact absurd (by simpa using hempty) hdir
  | case3 dir outer hdir made hmake =>
    rintro - dir ⟨⟩ -
    exact (makeDirectory_eq_ok hmake).2
  | case4 => rintro ⟨⟩
  | case5 dir outer hdir hmissing first hfirst made hmake =>
    rintro - dir ⟨⟩ -
    exact (ensureDirectory_eq_ok hmake).2
  | case6 => rintro ⟨⟩
  | case7 dir outer hdir e hfault hfail hthere =>
    rintro - dir ⟨⟩ -
    exact hthere
  | case8 => rintro ⟨⟩

/-- **Making a directory** makes it and the missing ones above it, and nothing else. -/
theorem makes_makeDirectories (fs : FileSystem) (dir : String) :
    Makes (fun outer => outer = dir ∨ Path.Above outer dir) fs (fs.makeDirectories dir).2 :=
  (makes_makeFirst fs _).mono fun _ h => eq_or_above_of_mem_ancestorsUpTo h

theorem holdsDirectory_of_makeDirectories {fs : FileSystem} {dir : String} (hdir : dir ≠ "")
    (h : (fs.makeDirectories dir).1 = .ok ()) : (fs.makeDirectories dir).2.holdsDirectory dir = true :=
  holdsDirectory_of_makeFirst h dir rfl hdir

/-! ## New files -/

theorem holds_of_read {fs : FileSystem} {bytes : List UInt8} (h : fs.read path = .ok bytes) :
    fs.holds path = true := by
  rw [FileSystem.read] at h
  rw [holds]
  cases hfind : fs.find path with
  | ok entry => rfl
  | error e =>
    rw [hfind] at h
    cases h

/-- A file that can be read is somewhere. -/
theorem exists_place_of_read {fs : FileSystem} {bytes : List UInt8} (h : fs.read path = .ok bytes) :
    ∃ place, fs.locate path = .ok place ∧ fs.entryAt place ≠ none := by
  rw [FileSystem.read, find] at h
  cases hlocate : fs.locate path with
  | error e =>
    rw [hlocate] at h
    cases h
  | ok place =>
    refine ⟨place, rfl, fun hplace => ?_⟩
    rw [hlocate] at h
    simp only [hplace] at h
    cases h

/-- What is read depends only on what is at the place that a path leads to, and on whether the path can be that
of a file. -/
theorem read_congr {fs fs' : FileSystem} {other : String} {place : Place} (h : fs.locate path = .ok place)
    (h' : fs'.locate other = .ok place) (hplace : fs.entryAt place = fs'.entryAt place)
    (hkind : meansDirectory path = meansDirectory other) : fs.read path = fs'.read other := by
  rw [FileSystem.read, FileSystem.read, find, find, h, h', hkind]
  simp only [hplace]

/-- A file has been written, and nothing else has changed but that there may be new directories. -/
structure Saves (paths : String → Prop) (path : String) (bytes : List UInt8) (before after : FileSystem) :
    Prop where
  /-- Relative paths are seen from the same place. -/
  workingPlace : after.workingPlace = before.workingPlace
  /-- The path can be that of a file. -/
  file_path : meansDirectory path = false
  /-- The file is there, and no directory has been there before. -/
  file : ∃ place, after.locate path = .ok place ∧ before.entryAt place ≠ some .directory ∧
    after.entryAt place = some (.file bytes)
  /-- Elsewhere there may be new directories. -/
  entry : ∀ place, after.locate path ≠ .ok place → Stays paths before after place

namespace Saves

variable {bytes : List UInt8}

theorem keeps (h : Saves paths path bytes before after) : before.Extends after := by
  refine ⟨h.workingPlace, fun place hplace => ?_⟩
  obtain ⟨written, hwritten, hfree, -⟩ := h.file
  have hne : after.locate path ≠ .ok place := by
    rw [hwritten]
    rintro ⟨⟩
    exact hfree hplace
  exact (h.entry place hne).directory hplace

/-- The path leads to what has been written. -/
theorem read (h : Saves paths path bytes before after) : after.read path = .ok bytes := by
  obtain ⟨place, hlocate, -, hfile⟩ := h.file
  exact read_eq_ok hlocate h.file_path hfile

/-- A file that is elsewhere keeps its bytes. -/
theorem read_other (h : Saves paths path bytes before after) {other : String} {kept : List UInt8}
    (hread : before.read other = .ok kept) (hne : after.locate other ≠ after.locate path) :
    after.read other = .ok kept := by
  obtain ⟨place, hlocate, hplace⟩ := exists_place_of_read hread
  have hlocate' := h.keeps.locate hlocate
  have helsewhere : after.locate path ≠ .ok place := fun e => hne (hlocate'.trans e.symm)
  rcases h.entry place helsewhere with hsame | hnew
  · rw [read_congr hlocate' hlocate hsame rfl, hread]
  · exact absurd hnew.missing hplace

end Saves

/-- **A file is written** after directories have been made. -/
theorem saves_of_write {bytes : List UInt8} (hmakes : Makes paths before mid)
    (hwrite : mid.write path bytes = .ok after) : Saves paths path bytes before after := by
  obtain ⟨place, hlocate, hfile, hfree, rfl⟩ := write_eq_ok_iff.1 hwrite
  have hputs := Extends.put hfree (.file bytes)
  have hlocate' := hputs.locate hlocate
  refine ⟨hmakes.workingPlace, hfile, ⟨place, hlocate', ?_, entryAt_put_self hfree _⟩, fun other hother => ?_⟩
  · exact fun hplace => hfree (hmakes.keeps.directory place hplace)
  · have hne : other ≠ place := fun e => hother (e ▸ hlocate')
    exact (hmakes.entry other).trans (.inl (entryAt_put mid hne _)) hputs

/-! ## Working directories -/

/-- The same files, with relative paths seen from a directory. The empty path stands for the working directory. -/
def enter (fs : FileSystem) (dir : String) : Except FileFault FileSystem :=
  if dir.isEmpty then .ok fs
  else
    match fs.locate dir with
    | .error e => .error e
    | .ok place =>
      match fs.needDirectory place with
      | .error e => .error e
      | .ok () => .ok { fs with workingPlace := place }

section Enter

variable {fs there : FileSystem} {dir name : String} {place : Place}

/-- A path that leads to a directory still does when something has been written. -/
theorem holdsDirectory_of_write {written : FileSystem} {bytes : List UInt8} (h : fs.write name bytes = .ok written)
    (hdir : fs.holdsDirectory dir = true) : written.holdsDirectory dir = true := by
  obtain ⟨_, -, -, hfree, rfl⟩ := write_eq_ok_iff.1 h
  obtain ⟨place, hlocate, hplace⟩ := holdsDirectory_iff.1 hdir
  have hputs := Extends.put hfree (.file bytes)
  exact holdsDirectory_iff.2 ⟨place, hputs.locate hlocate, hputs.directory place hplace⟩

/-- A directory is entered if it is there. -/
theorem enter_eq_ok_iff : fs.enter dir = .ok there ↔ (dir = "" ∧ there = fs) ∨
    dir ≠ "" ∧ ∃ place, fs.locate dir = .ok place ∧ fs.entryAt place = some .directory ∧
      there = { fs with workingPlace := place } := by
  unfold enter
  by_cases hdir : dir = ""
  · subst hdir
    rw [if_pos (by simp)]
    constructor
    · rintro ⟨⟩
      exact .inl ⟨rfl, rfl⟩
    · rintro (⟨-, rfl⟩ | ⟨hdir, -⟩)
      · rfl
      · exact absurd rfl hdir
  · rw [if_neg (by simpa using hdir)]
    cases fs.locate dir with
    | error e => simp [hdir]
    | ok place =>
      cases hneed : fs.needDirectory place with
      | error e =>
        have hplace : fs.entryAt place ≠ some .directory := by
          intro hplace
          rw [(fs.needDirectory_eq_ok_iff place).2 hplace] at hneed
          cases hneed
        simp [hdir, hneed, hplace]
      | ok u => simp [hdir, hneed, (fs.needDirectory_eq_ok_iff place).1 hneed, eq_comm]

theorem exists_enter (h : dir ≠ "" → fs.holdsDirectory dir = true) : ∃ there, fs.enter dir = .ok there := by
  by_cases hdir : dir = ""
  · exact ⟨fs, enter_eq_ok_iff.2 (.inl ⟨hdir, rfl⟩)⟩
  · obtain ⟨place, hlocate, hplace⟩ := holdsDirectory_iff.1 (h hdir)
    exact ⟨_, enter_eq_ok_iff.2 (.inr ⟨hdir, place, hlocate, hplace, rfl⟩)⟩

/-- A path is followed from the root or the working directory. -/
theorem locate_eq (fs : FileSystem) (hdir : dir ≠ "") :
    fs.locate dir = fs.follow (if Path.isAbsolute dir then [] else fs.workingPlace) (Path.steps dir) := by
  rw [locate, if_neg (by simpa using hdir)]
  rfl

/-- A path is followed step by step. -/
theorem follow_append {start : Place} {steps : List String} (h : fs.follow start steps = .ok place)
    (more : List String) : fs.follow start (steps ++ more) = fs.follow place more := by
  induction steps generalizing start with
  | nil =>
    cases h
    rfl
  | cons step steps ih =>
    obtain ⟨hstart, hrest⟩ := follow_cons_eq_ok_iff.1 h
    rw [List.cons_append, follow, (fs.needDirectory_eq_ok_iff start).2 hstart]
    exact ih hrest

/-- Where relative paths begin has no influence once a path is followed from a place. -/
theorem follow_workingPlace (fs : FileSystem) (place start : Place) (steps : List String) :
    ({ fs with workingPlace := place } : FileSystem).follow start steps = fs.follow start steps := by
  induction steps generalizing start with
  | nil => rfl
  | cons step steps ih =>
    rw [follow, follow]
    change (match fs.needDirectory start with | .error e => _ | .ok () => _) = _
    cases fs.needDirectory start with
    | error e => rfl
    | ok u => exact ih _

/-- A relative path leads from a place to where it leads when it is seen from the path to that place. -/
theorem locate_join (hdir : dir ≠ "") (h : fs.locate dir = .ok place) (hne : name ≠ "")
    (hname : Path.isAbsolute name = false) :
    fs.locate (Path.join dir name) = ({ fs with workingPlace := place } : FileSystem).locate name := by
  have hjoined : Path.join dir name ≠ "" := by
    intro hempty
    have hlast := Path.getLast?_join hdir hne hname
    rw [hempty] at hlast
    exact hne (String.toList_inj.1 (List.getLast?_eq_none_iff.1 hlast.symm))
  rw [locate_eq fs hdir] at h
  rw [locate_eq fs hjoined, locate_eq _ hne, Path.isAbsolute_join hname, Path.steps_join hname,
    follow_append h, hname, if_neg Bool.false_ne_true]
  exact (follow_workingPlace fs place place _).symm

/-- **What a path leads to** from a directory is what it leads to when it is seen from the path of that. -/
theorem find_of_enter (h : fs.enter dir = .ok there) (hne : name ≠ "") (hname : Path.isAbsolute name = false) :
    there.find name = fs.find (Path.join dir name) := by
  rcases enter_eq_ok_iff.1 h with ⟨rfl, rfl⟩ | ⟨hdir, place, hlocate, -, rfl⟩
  · rw [Path.join, if_pos (by simp)]
  · have hkind : meansDirectory (Path.join dir name) = meansDirectory name := by
      rw [meansDirectory, meansDirectory, Path.getLast?_join hdir hne hname]
    rw [find, find, locate_join hdir hlocate hne hname, hkind]
    rfl

end Enter

end FileSystem

end TraceDiagram
