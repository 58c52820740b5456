import Mathlib.Data.List.DropRight
import TraceDiagram.Proofs.Files

/-! # Where paths lead

Some pieces of a path say nothing. The others are its moves: names, and steps back.

* **`Path.moves`** the pieces that say something. By **`moves_parent`** the parent of a path lacks the last of them,
  and by **`getLast?_moves_of_fileName`** that is the name at the end of the path, if it has one.
* **`FileSystem.origin`** the place where a path begins. By **`follow_of_locate`** the path leads from there where
  its moves lead, and by **`exists_directory_of_locate`** the last of them begins in a directory. -/

namespace TraceDiagram

namespace Path

/-! ## Pieces -/

theorem pieces_ne_nil (p : String) : pieces p ≠ [] := by
  rw [pieces, Ne, List.map_eq_nil_iff]
  exact Text.split_ne_nil _ _

theorem slash_not_mem_of_mem_pieces {p piece : String} (h : piece ∈ pieces p) : '/' ∉ piece.toList := by
  obtain ⟨cs, hcs, rfl⟩ := List.mem_map.1 h
  rw [String.toList_ofList]
  exact Text.not_mem_of_mem_split hcs

theorem pieces_of_slash_not_mem {piece : String} (h : '/' ∉ piece.toList) : pieces piece = [piece] := by
  rw [pieces, Text.split_of_not_mem h, List.map_singleton, String.ofList_toList]

/-- Pieces are those of their path, if slashes are only in between. -/
theorem pieces_ofPieces {ps : List String} (hne : ps ≠ []) (h : ∀ piece ∈ ps, '/' ∉ piece.toList) :
    pieces (ofPieces ps) = ps := by
  have hsplit : (ps.map String.toList).flatMap (Text.split ['/']) = ps.map String.toList := by
    rw [List.flatMap_map, List.flatMap_congr fun piece hpiece => Text.split_of_not_mem (h piece hpiece),
      List.map_eq_flatMap]
  have hslash : "/".toList = ['/'] := by decide +kernel
  rw [pieces, ofPieces, Text.joinStrings, String.toList_ofList, hslash, Text.split_join _ (by simpa using hne), hsplit,
    List.map_map]
  simp

/-- An absolute path begins with a slash, so that nothing is in front of it. -/
theorem isAbsolute_iff {p first : String} {rest : List String} (h : pieces p = first :: rest) :
    isAbsolute p = true ↔ first = "" ∧ rest ≠ [] := by
  by_cases hslash : '/' ∈ p.toList
  · obtain ⟨before, after, hp, hbefore⟩ := List.eq_append_cons_of_mem hslash
    rw [pieces, hp, Text.split_append hbefore, List.map_cons, List.cons.injEq] at h
    obtain ⟨rfl, rfl⟩ := h
    have hrest : (Text.split ['/'] after).map String.ofList ≠ [] := by simp [Text.split_ne_nil]
    cases before with
    | nil => simp [isAbsolute, hp, hrest]
    | cons c before =>
      rw [List.mem_cons, not_or] at hbefore
      simp [isAbsolute, hp, Ne.symm hbefore.1]
  · rw [pieces_of_slash_not_mem hslash, List.cons.injEq] at h
    obtain ⟨rfl, rfl⟩ := h
    have hhead : p.toList.head? ≠ some '/' := fun hhead => hslash (List.mem_of_mem_head? hhead)
    simp [isAbsolute, hhead]

/-! ## Moves -/

/-- The pieces that say something. -/
def moves (p : String) : List String := (pieces p).filter (!isIdle ·)

theorem moves_eq_filter_steps (p : String) : moves p = (steps p).filter (· ≠ ".") := by
  rw [moves, steps, List.filter_filter]
  refine List.filter_congr fun piece _ => ?_
  rw [isIdle, Bool.not_or]
  simp [Bool.and_comm]

/-- The moves of a path that is seen from another one come after the moves of that path. -/
theorem moves_join {p q : String} (hq : isAbsolute q = false) : moves (join p q) = moves p ++ moves q := by
  rw [moves_eq_filter_steps, steps_join hq, List.filter_append, ← moves_eq_filter_steps, ← moves_eq_filter_steps]

/-- The pieces at the end that say nothing are no moves. -/
theorem filter_dropIdleEnd (ps : List String) : (dropIdleEnd ps).filter (!isIdle ·) = ps.filter (!isIdle ·) := by
  change (ps.rdropWhile isIdle).filter _ = _
  induction ps using List.reverseRecOn with
  | nil => rw [List.rdropWhile_nil]
  | append_singleton ps last ih =>
    by_cases hlast : isIdle last = true
    · rw [List.rdropWhile_concat_pos _ _ _ hlast, ih, List.filter_append]
      simp [hlast]
    · rw [List.rdropWhile_concat_neg _ _ _ hlast]

/-- What is left ends with a piece that says something. -/
theorem dropIdleEnd_cases (ps : List String) :
    dropIdleEnd ps = [] ∨ ∃ front last, dropIdleEnd ps = front ++ [last] ∧ isIdle last = false := by
  change ps.rdropWhile isIdle = [] ∨ ∃ front last, ps.rdropWhile isIdle = front ++ [last] ∧ _
  by_cases hne : ps.rdropWhile isIdle = []
  · exact .inl hne
  · have hlast := List.rdropWhile_last_not isIdle ps hne
    exact .inr ⟨_, _, (List.dropLast_concat_getLast hne).symm, by simpa using hlast⟩

theorem mem_of_mem_dropIdleEnd {ps : List String} {piece : String} (h : piece ∈ dropIdleEnd ps) : piece ∈ ps :=
  (List.rdropWhile_prefix isIdle ps).subset h

section Parts

variable {p dir first last name : String} {rest front : List String}

theorem parts_eq (h : pieces p = first :: rest) : parts p = (first, dropIdleEnd rest) := by
  rw [parts, h]

theorem moves_eq (h : pieces p = first :: rest) : moves p = (first :: dropIdleEnd rest).filter (!isIdle ·) := by
  rw [moves, h, List.filter_cons, List.filter_cons, filter_dropIdleEnd]

theorem moves_eq_concat (h : pieces p = first :: rest) (hends : dropIdleEnd rest = front ++ [last])
    (hlast : isIdle last = false) : moves p = (first :: front).filter (!isIdle ·) ++ [last] := by
  rw [moves_eq h, hends, ← List.cons_append, List.filter_append]
  simp [hlast]

/-- The name at the end of a path is its last move, and no step back. -/
theorem getLast?_moves_of_fileName (h : fileName? p = some name) : (moves p).getLast? = some name ∧ name ≠ ".." := by
  obtain ⟨first, rest, hp⟩ := List.exists_cons_of_ne_nil (pieces_ne_nil p)
  rw [fileName?, parts_eq hp] at h
  simp only at h
  split at h
  · cases h
  · next hproper =>
    obtain rfl := Option.some.inj h
    rw [Bool.or_eq_true, not_or] at hproper
    refine ⟨?_, by simpa using hproper.2⟩
    rcases dropIdleEnd_cases rest with hnil | ⟨front, last, hends, hlast⟩
    · rw [moves_eq hp]
      simpa [hnil] using hproper.1
    · rw [moves_eq_concat hp hends hlast, hends]
      simp

/-- A path without a parent does not move. -/
theorem moves_of_parent?_eq_none (h : parent? p = none) : moves p = [] := by
  obtain ⟨first, rest, hp⟩ := List.exists_cons_of_ne_nil (pieces_ne_nil p)
  rw [parent?, parts_eq hp] at h
  rw [moves_eq hp]
  rcases dropIdleEnd_cases rest with hnil | ⟨front, last, hends, hlast⟩
  · have hfirst : first = "" := by simpa [hnil] using h
    simp [hnil, hfirst, isIdle]
  · simp [hends] at h

/-- **The parent of a path** lacks its last move and begins where the path does. -/
theorem moves_parent (h : parent? p = some dir) :
    moves dir = (moves p).dropLast ∧ isAbsolute dir = isAbsolute p := by
  obtain ⟨first, rest, hp⟩ := List.exists_cons_of_ne_nil (pieces_ne_nil p)
  rw [parent?, parts_eq hp] at h
  rcases dropIdleEnd_cases rest with hnil | ⟨front, last, hends, hlast⟩
  · obtain ⟨hfirst, rfl⟩ : first ≠ "" ∧ "" = dir := by simpa [hnil] using h
    have hempty : moves "" = [] ∧ isAbsolute "" = false := by decide +kernel
    have hrelative : isAbsolute p = false := by
      rw [← Bool.not_eq_true, isAbsolute_iff hp]
      exact fun habsolute => hfirst habsolute.1
    rw [hempty.1, hempty.2, hrelative, moves_eq hp, hnil, List.filter_singleton]
    cases isIdle first <;> exact ⟨rfl, rfl⟩
  · have hrest : rest ≠ [] := by
      rintro rfl
      cases front <;> cases hends
    rw [moves_eq_concat hp hends hlast, List.dropLast_concat, Bool.eq_iff_iff, isAbsolute_iff hp]
    simp only [hends, List.dropLast_concat] at h
    by_cases hroot : dropIdleEnd front = [] ∧ first = ""
    · obtain ⟨hfront, rfl⟩ := hroot
      obtain rfl : "/" = dir := by simpa [hfront] using h
      have hslash : moves "/" = [] ∧ isAbsolute "/" = true := by decide +kernel
      rw [hslash.1, hslash.2, List.filter_cons, ← filter_dropIdleEnd, hfront]
      simp [isIdle, hrest]
    · obtain rfl : ofPieces (first :: dropIdleEnd front) = dir := by simpa [hroot] using h
      have hpieces : pieces (ofPieces (first :: dropIdleEnd front)) = first :: dropIdleEnd front := by
        refine pieces_ofPieces (List.cons_ne_nil _ _) fun piece hpiece => slash_not_mem_of_mem_pieces (p := p) ?_
        rw [hp]
        refine List.cons_subset_cons first (fun q hq => mem_of_mem_dropIdleEnd ?_) hpiece
        rw [hends]
        exact List.mem_append_left _ (mem_of_mem_dropIdleEnd hq)
      rw [moves, hpieces, isAbsolute_iff hpieces, List.filter_cons, List.filter_cons, filter_dropIdleEnd]
      exact ⟨rfl, and_congr_right fun hfirst => iff_of_true (fun hfront => hroot ⟨hfront, hfirst⟩) hrest⟩

end Parts

/-- A name without slashes that is no step is the name at the end of itself. -/
theorem fileName?_of_slash_not_mem {name : String} (h : '/' ∉ name.toList) (hne : isIdle name = false)
    (hback : name ≠ "..") : fileName? name = some name := by
  have hparts : parts name = (name, []) := parts_eq (pieces_of_slash_not_mem h)
  rw [fileName?, hparts]
  simp [hne, hback]

/-- The name at the end of a path is one step, and leads into a directory. -/
theorem name_of_fileName {p name : String} (h : fileName? p = some name) :
    name ≠ "" ∧ steps name = [name] ∧ isAbsolute name = false ∧
      ∀ place, FileSystem.step place name = place ++ [name] := by
  obtain ⟨hlast, hback⟩ := getLast?_moves_of_fileName h
  obtain ⟨hpiece, hidle⟩ := List.mem_filter.1 (List.mem_of_getLast? hlast)
  have hname := pieces_of_slash_not_mem (slash_not_mem_of_mem_pieces hpiece)
  obtain ⟨hne, hpoint⟩ : name ≠ "" ∧ name ≠ "." := by simpa [isIdle] using hidle
  refine ⟨hne, by simp [steps, hname, hne], ?_, fun place => ?_⟩
  · rw [← Bool.not_eq_true, isAbsolute_iff hname]
    exact fun habsolute => habsolute.2 rfl
  · rw [FileSystem.step, if_neg hpoint, if_neg hback]

end Path

/-! ## Places -/

namespace FileSystem

variable {fs : FileSystem} {start place : Place} {path last : String} {pieces front more : List String}

theorem follow_append_eq_ok_iff : fs.follow start (front ++ more) = .ok place ↔
    ∃ mid, fs.follow start front = .ok mid ∧ fs.follow mid more = .ok place := by
  induction front generalizing start with
  | nil => simp [follow]
  | cons piece front ih =>
    simp only [List.cons_append, follow_cons_eq_ok_iff, ih, and_assoc, exists_and_left]

/-- The place is settled by the steps. -/
theorem eq_foldl_of_follow (h : fs.follow start pieces = .ok place) : place = pieces.foldl step start := by
  induction pieces generalizing start with
  | nil =>
    cases h
    rfl
  | cons piece pieces ih => exact ih (follow_cons_eq_ok_iff.1 h).2

/-- If there is a directory in the end then there is one at the beginning. -/
theorem directory_of_follow (h : fs.follow start pieces = .ok place) (hplace : fs.entryAt place = some .directory) :
    fs.entryAt start = some .directory := by
  cases pieces with
  | nil =>
    cases h
    exact hplace
  | cons piece pieces => exact (follow_cons_eq_ok_iff.1 h).1

/-- Points lead nowhere else. -/
theorem follow_moves (h : fs.follow start pieces = .ok place) :
    fs.follow start (pieces.filter (· ≠ ".")) = .ok place := by
  induction pieces generalizing start with
  | nil => exact h
  | cons piece pieces ih =>
    obtain ⟨hstart, hrest⟩ := follow_cons_eq_ok_iff.1 h
    by_cases hpoint : piece = "."
    · subst hpoint
      exact ih hrest
    · rw [List.filter_cons_of_pos (by simpa using hpoint), follow_cons_eq_ok_iff]
      exact ⟨hstart, ih hrest⟩

/-- Points may stand anywhere on the way to a directory. -/
theorem follow_of_moves (h : fs.follow start (pieces.filter (· ≠ ".")) = .ok place)
    (hplace : fs.entryAt place = some .directory) : fs.follow start pieces = .ok place := by
  induction pieces generalizing start with
  | nil => exact h
  | cons piece pieces ih =>
    refine follow_cons_eq_ok_iff.2 ⟨directory_of_follow h hplace, ih ?_⟩
    by_cases hpoint : piece = "."
    · subst hpoint
      exact h
    · rw [List.filter_cons_of_pos (by simpa using hpoint)] at h
      exact (follow_cons_eq_ok_iff.1 h).2

/-- Where a path begins. -/
def origin (fs : FileSystem) (path : String) : Place := if Path.isAbsolute path then [] else fs.workingPlace

theorem locate_eq_ok_iff : fs.locate path = .ok place ↔
    path ≠ "" ∧ fs.follow (fs.origin path) (Path.steps path) = .ok place := by
  by_cases hne : path = ""
  · simp [locate, hne]
  · rw [locate_eq fs hne]
    exact (and_iff_right hne).symm

/-- A path leads where its moves lead. -/
theorem follow_of_locate (h : fs.locate path = .ok place) :
    fs.follow (fs.origin path) (Path.moves path) = .ok place := by
  rw [Path.moves_eq_filter_steps]
  exact follow_moves (locate_eq_ok_iff.1 h).2

/-- A path whose moves lead to a directory leads there. -/
theorem locate_of_follow (hne : path ≠ "") (h : fs.follow (fs.origin path) (Path.moves path) = .ok place)
    (hplace : fs.entryAt place = some .directory) : fs.locate path = .ok place := by
  rw [Path.moves_eq_filter_steps] at h
  exact locate_eq_ok_iff.2 ⟨hne, follow_of_moves h hplace⟩

/-- **The last move of a path** begins in a directory. -/
theorem exists_directory_of_locate (h : fs.locate path = .ok place) (hmoves : Path.moves path = front ++ [last]) :
    ∃ directory, fs.follow (fs.origin path) front = .ok directory ∧
      fs.entryAt directory = some .directory ∧ place = step directory last := by
  have hfollow := follow_of_locate h
  rw [hmoves, follow_append_eq_ok_iff] at hfollow
  obtain ⟨directory, hfront, hlast⟩ := hfollow
  obtain ⟨hdirectory, hplace⟩ := follow_cons_eq_ok_iff.1 hlast
  cases hplace
  exact ⟨directory, hfront, hdirectory, rfl⟩

/-- **A name in a directory** leads to the place of that name right below. -/
theorem locate_join_fileName {dir name : String} {home : Place} (h : fs.locate dir = .ok home)
    (hhome : fs.entryAt home = some .directory) (hname : Path.fileName? path = some name) :
    fs.locate (Path.join dir name) = .ok (home ++ [name]) := by
  obtain ⟨hne, hsteps, hrelative, hstep⟩ := Path.name_of_fileName hname
  rw [locate_join (locate_eq_ok_iff.1 h).1 h hne hrelative, locate_eq_ok_iff]
  refine ⟨hne, ?_⟩
  rw [hsteps, follow_workingPlace, origin, hrelative, if_neg Bool.false_ne_true, follow_cons_eq_ok_iff, hstep]
  exact ⟨hhome, rfl⟩

end FileSystem

end TraceDiagram
