import TraceDiagram.Dict
import TraceDiagram.Path
import TraceDiagram.Text.Utf8

/-! # File systems

A file system as a value: what there is at each place, and the place that relative paths are seen from.

* **`Place`** the names on the way from the root, **`Entry`** what is there.
* **`FileSystem.locate`** follows a path; **`FileSystem.find`** says what it leads to.
* **`FileSystem.read`**, **`FileSystem.write`**, **`FileSystem.makeDirectory`**,
  **`FileSystem.makeDirectories`** read and change.
* **`FileSystem.Extends`** what is left alone by every change that is made here: directories stay, so that
  paths go on leading to the same places.
* **`readText_of_writeText`** a text is read back from its file.

Some of what a machine has is left out. There are no symbolic links, so that a place is reached on one way only. A
write fails for what stands at its place or on the way there, never because it is forbidden or the disk is full or
broken. Names are texts; names whose bytes are no text do not occur.
-/

namespace TraceDiagram

/-- Why a file cannot be read or written. -/
inductive FileFault where
  /-- There is nothing of that name. -/
  | notFound
  /-- It may not be run. -/
  | permissionDenied
  /-- There is something of that name. -/
  | alreadyExists
  /-- Part of the path is no directory. -/
  | notADirectory
  /-- It is a directory. -/
  | isADirectory
  /-- Its bytes are no text. -/
  | notText
  deriving DecidableEq, Repr

/-- The text of the fault. -/
def FileFault.message : FileFault → String
  | .notFound => "No such file or directory (os error 2)"
  | .permissionDenied => "Permission denied (os error 13)"
  | .alreadyExists => "File exists (os error 17)"
  | .notADirectory => "Not a directory (os error 20)"
  | .isADirectory => "Is a directory (os error 21)"
  | .notText => "stream did not contain valid UTF-8"

/-- The names on the way from the root. -/
abbrev Place := List String

/-- What there is at a place. -/
inductive Entry where
  /-- A directory. -/
  | directory
  /-- A file with its bytes. -/
  | file (bytes : List UInt8)
  /-- A program that may be run, by its name. -/
  | program (name : String)
  deriving DecidableEq, Repr

/-- What there is, and where relative paths begin. -/
structure FileSystem where
  /-- What there is at each place but the root. -/
  entries : Dict Place Entry := ∅
  /-- Where relative paths begin. -/
  workingPlace : Place := []
  deriving DecidableEq, Repr

namespace FileSystem

/-- What there is at a place. The root is a directory. -/
def entryAt (fs : FileSystem) (place : Place) : Option Entry :=
  if place.isEmpty then some .directory else fs.entries.get? place

/-- Sets what there is at a place. -/
def put (fs : FileSystem) (place : Place) (entry : Entry) : FileSystem :=
  { fs with entries := fs.entries.insert place entry }

/-- The path of a place. -/
def pathOf (place : Place) : String :=
  if place.isEmpty then "/" else Path.ofPieces ("" :: place)

/-- Requires that there is a directory at a place. -/
def needDirectory (fs : FileSystem) (place : Place) : Except FileFault Unit :=
  match fs.entryAt place with
  | some .directory => .ok ()
  | some _ => .error .notADirectory
  | none => .error .notFound

/-- One step of a path: two points lead back, and one point stays. -/
def step (place : Place) (piece : String) : Place :=
  if piece = "." then place else if piece = ".." then place.dropLast else place ++ [piece]

/-- Follows pieces of a path. Every step begins in a directory. -/
def follow (fs : FileSystem) : Place → List String → Except FileFault Place
  | place, [] => .ok place
  | place, piece :: rest =>
    match fs.needDirectory place with
    | .error e => .error e
    | .ok () => fs.follow (step place piece) rest

/-- The place that a path leads to, where there need not be anything. -/
def locate (fs : FileSystem) (path : String) : Except FileFault Place :=
  if path.isEmpty then .error .notFound
  else fs.follow (if Path.isAbsolute path then [] else fs.workingPlace)
    ((Path.pieces path).filter fun piece => !piece.isEmpty)

/-- Whether a path can only lead to a directory. -/
def meansDirectory (path : String) : Bool := path.toList.getLast? = some '/'

/-- What a path leads to. -/
def find (fs : FileSystem) (path : String) : Except FileFault Entry :=
  match fs.locate path with
  | .error e => .error e
  | .ok place =>
    match fs.entryAt place with
    | none => .error .notFound
    | some .directory => .ok .directory
    | some entry => if meansDirectory path then .error .notADirectory else .ok entry

/-- Whether a path leads to anything. -/
def holds (fs : FileSystem) (path : String) : Bool :=
  match fs.find path with
  | .ok _ => true
  | .error _ => false

/-- Whether a path leads to a directory. -/
def holdsDirectory (fs : FileSystem) (path : String) : Bool :=
  match fs.find path with
  | .ok .directory => true
  | _ => false

/-- The bytes of a file. -/
def read (fs : FileSystem) (path : String) : Except FileFault (List UInt8) :=
  match fs.find path with
  | .error e => .error e
  | .ok .directory => .error .isADirectory
  | .ok (.file bytes) => .ok bytes
  | .ok (.program _) => .ok []

/-- The text of a file. -/
def readText (fs : FileSystem) (path : String) : Except FileFault String :=
  match fs.read path with
  | .error e => .error e
  | .ok bytes =>
    match Text.decode? bytes with
    | some text => .ok text
    | none => .error .notText

/-- Writes a file, in place of the one that is there. -/
def write (fs : FileSystem) (path : String) (bytes : List UInt8) : Except FileFault FileSystem :=
  match fs.locate path with
  | .error e => .error e
  | .ok place =>
    if meansDirectory path || fs.entryAt place = some .directory then .error .isADirectory
    else .ok (fs.put place (.file bytes))

/-- Writes the text of a file. -/
def writeText (fs : FileSystem) (path : String) (text : String) : Except FileFault FileSystem :=
  fs.write path (Text.encode text)

/-- What there is at other places stays as it was. -/
theorem entryAt_put (fs : FileSystem) {place other : Place} (hne : other ≠ place) (entry : Entry) :
    (fs.put place entry).entryAt other = fs.entryAt other := by
  simp [entryAt, put, hne]

theorem needDirectory_eq_ok_iff (fs : FileSystem) (place : Place) :
    fs.needDirectory place = .ok () ↔ fs.entryAt place = some .directory := by
  unfold needDirectory
  split <;> simp_all

/-- Every step begins in a directory. -/
theorem follow_cons_eq_ok_iff {fs : FileSystem} {start place : Place} {piece : String} {pieces : List String} :
    fs.follow start (piece :: pieces) = .ok place ↔
      fs.entryAt start = some .directory ∧ fs.follow (step start piece) pieces = .ok place := by
  rw [follow, ← needDirectory_eq_ok_iff]
  cases fs.needDirectory start with
  | error e => simp
  | ok u => simp

/-- What has been put at a place is there. The root cannot be meant, as it is a directory. -/
theorem entryAt_put_self {fs : FileSystem} {place : Place} (hplace : fs.entryAt place ≠ some .directory)
    (entry : Entry) : (fs.put place entry).entryAt place = some entry := by
  have hroot : place.isEmpty = false := by
    cases hroot : place.isEmpty with
    | false => rfl
    | true => exact absurd (by rw [entryAt, if_pos hroot]) hplace
  simp [entryAt, put, hroot]

/-- Directories stay where they are, and relative paths are seen from the same place. -/
structure Extends (before after : FileSystem) : Prop where
  /-- Relative paths are seen from the same place. -/
  workingPlace : after.workingPlace = before.workingPlace
  /-- A directory stays one. -/
  directory : ∀ place, before.entryAt place = some .directory → after.entryAt place = some .directory

namespace Extends

variable {before mid after : FileSystem}

theorem refl (fs : FileSystem) : fs.Extends fs := ⟨rfl, fun _ h => h⟩

theorem trans (h : before.Extends mid) (h' : mid.Extends after) : before.Extends after :=
  ⟨h'.workingPlace.trans h.workingPlace, fun place hplace => h'.directory place (h.directory place hplace)⟩

/-- Something is put where no directory is. -/
theorem put {fs : FileSystem} {place : Place} (hplace : fs.entryAt place ≠ some .directory) (entry : Entry) :
    fs.Extends (fs.put place entry) := by
  refine ⟨rfl, fun other hother => ?_⟩
  have hne : other ≠ place := fun e => hplace (e ▸ hother)
  rw [entryAt_put fs hne, hother]

/-- A path that can be followed is followed in the same way later. -/
theorem follow (h : before.Extends after) {start reached : Place} {pieces : List String}
    (hpath : before.follow start pieces = .ok reached) : after.follow start pieces = .ok reached := by
  induction pieces generalizing start with
  | nil => exact hpath
  | cons piece pieces ih =>
    -- the directory in which a step begins is still there
    obtain ⟨hstart, hrest⟩ := follow_cons_eq_ok_iff.1 hpath
    exact follow_cons_eq_ok_iff.2 ⟨h.directory start hstart, ih hrest⟩

/-- A path that leads to a place still leads there. -/
theorem locate (h : before.Extends after) {path : String} {place : Place}
    (hpath : before.locate path = .ok place) : after.locate path = .ok place := by
  unfold FileSystem.locate at hpath ⊢
  split at hpath
  · cases hpath
  · next hne =>
    rw [if_neg hne, h.workingPlace]
    exact h.follow hpath

end Extends

/-- A file is written at the place that its path leads to, unless there is a directory. -/
theorem write_eq_ok_iff {fs written : FileSystem} {path : String} {bytes : List UInt8} :
    fs.write path bytes = .ok written ↔ ∃ place, fs.locate path = .ok place ∧
      meansDirectory path = false ∧ fs.entryAt place ≠ some .directory ∧
      written = fs.put place (.file bytes) := by
  rw [write]
  cases fs.locate path with
  | error e => simp
  | ok place =>
    by_cases hrefused : (meansDirectory path || fs.entryAt place = some .directory) = true
    · simp only [if_pos hrefused]
      constructor
      · rintro ⟨⟩
      · rintro ⟨_, ⟨⟩, hpath, hplace, -⟩
        simp [hpath, hplace] at hrefused
    · simp only [if_neg hrefused]
      rw [Bool.or_eq_true, decide_eq_true_eq, not_or, Bool.not_eq_true] at hrefused
      constructor
      · rintro ⟨⟩
        exact ⟨place, rfl, hrefused.1, hrefused.2, rfl⟩
      · rintro ⟨_, ⟨⟩, -, -, rfl⟩
        rfl

/-- The bytes of a file are read at the place that its path leads to. -/
theorem read_eq_ok {fs : FileSystem} {path : String} {place : Place} {bytes : List UInt8}
    (hpath : fs.locate path = .ok place) (hfile : meansDirectory path = false)
    (hplace : fs.entryAt place = some (.file bytes)) : fs.read path = .ok bytes := by
  rw [read, find, hpath]
  simp only [hplace, hfile]
  rfl

/-- Bytes are read back from the file that they have been written to. -/
theorem read_of_write {fs written : FileSystem} {path : String} {bytes : List UInt8}
    (h : fs.write path bytes = .ok written) : written.read path = .ok bytes := by
  obtain ⟨place, hpath, hfile, hplace, rfl⟩ := write_eq_ok_iff.1 h
  exact read_eq_ok ((Extends.put hplace _).locate hpath) hfile (entryAt_put_self hplace _)

/-- **A text is read back** from the file that it has been written to. -/
theorem readText_of_writeText {fs written : FileSystem} {path text : String}
    (h : fs.writeText path text = .ok written) : written.readText path = .ok text := by
  rw [readText, read_of_write h]
  simp only [Text.decode?_encode]

example : ((({} : FileSystem).writeText "/settings" "on").toOption.bind fun written =>
    (written.readText "/settings").toOption) = some "on" := by decide +kernel

/-- Where one text cannot be written, no other can. -/
theorem writeText_error {fs : FileSystem} {path text : String} {fault : FileFault}
    (h : fs.writeText path text = .error fault) (other : String) :
    fs.writeText path other = .error fault := by
  simp only [writeText, write] at h ⊢
  cases hlocate : fs.locate path with
  | error e =>
    rw [hlocate] at h
    exact h
  | ok place =>
    simp only [hlocate] at h ⊢
    split at h
    · next hdirectory =>
      rw [if_pos hdirectory]
      exact h
    · cases h

/-- Makes a directory where there is nothing. -/
def makeDirectory (fs : FileSystem) (path : String) : Except FileFault FileSystem :=
  match fs.locate path with
  | .error e => .error e
  | .ok place =>
    match fs.entryAt place with
    | some _ => .error .alreadyExists
    | none => .ok (fs.put place .directory)

/-- Makes a directory; one that is there will do as well. -/
def ensureDirectory (fs : FileSystem) (path : String) : Except FileFault FileSystem :=
  match fs.makeDirectory path with
  | .ok made => .ok made
  | .error e => if fs.holdsDirectory path then .ok fs else .error e

/-- A path, its parent, the parent of that and so on, as far as the path has steps. -/
def ancestorsUpTo : Nat → String → List String
  | 0, _ => []
  | steps + 1, path =>
    path :: match Path.parent? path with
      | some outer => ancestorsUpTo steps outer
      | none => []

/-- Makes the first directory, after the others if something of its path is missing. -/
def makeFirst (fs : FileSystem) : List String → Except FileFault Unit × FileSystem
  | [] => (.error .notFound, fs)
  | path :: outer =>
    if path.isEmpty then (.ok (), fs)
    else match fs.makeDirectory path with
      | .ok made => (.ok (), made)
      | .error .notFound =>
        match fs.makeFirst outer with
        | (.error e, made) => (.error e, made)
        | (.ok (), made) =>
          match made.ensureDirectory path with
          | .ok made => (.ok (), made)
          | .error e => (.error e, made)
      | .error e => if fs.holdsDirectory path then (.ok (), fs) else (.error e, fs)

/-- Makes a directory and all that are missing on the way. What has been made stays, also after a fault. -/
def makeDirectories (fs : FileSystem) (path : String) : Except FileFault Unit × FileSystem :=
  fs.makeFirst (ancestorsUpTo (path.length + 1) path)

/-- What there is right below a place, by name. -/
def childrenAt (fs : FileSystem) (place : Place) : List (String × Entry) :=
  fs.entries.entries.filterMap fun p =>
    match p.1.getLast? with
    | some name => if p.1 = place ++ [name] then some (name, p.2) else none
    | none => none

/-- What there is right below a path, in the order of the names. -/
def children (fs : FileSystem) (path : String) : Except FileFault (List (String × Entry)) :=
  match fs.find path, fs.locate path with
  | .ok .directory, .ok place => .ok ((fs.childrenAt place).mergeSort fun a b => !(b.1 < a.1))
  | .error e, _ => .error e
  | _, .error e => .error e
  | .ok _, .ok _ => .error .notADirectory

/-- All places below a place, depth first and in the order of the names, at most so many levels down. -/
def descendantsUpTo (fs : FileSystem) : Nat → Place → List (Place × Entry)
  | 0, _ => []
  | levels + 1, place =>
    ((fs.childrenAt place).mergeSort fun a b => !(b.1 < a.1)).flatMap fun p =>
      (place ++ [p.1], p.2) :: fs.descendantsUpTo levels (place ++ [p.1])

/-- All places below a place, depth first and in the order of the names. -/
def descendants (fs : FileSystem) (place : Place) : List (Place × Entry) :=
  fs.descendantsUpTo fs.entries.size place

end FileSystem

end TraceDiagram
