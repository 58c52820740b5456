import TraceDiagram.Proofs.Paths
import TraceDiagram.Renderer

/-! # Finding the program among the extensions

* **`FileSystem.HasBelow`** there is an entry right below a directory; **`mem_children_iff`** the entries that are
  listed are these, and **`pairwise_children`** they are listed in the order of their names, byte by byte.
* **`Renderer.IsInstalled`** a directory that may be the one of the program.
* **`Renderer.findExtension_cases`** the first of these by name is found, if there is any.
* **`Renderer.findsFirst`** so the answer is settled by what is installed, and by nothing else. -/

namespace TraceDiagram

/-! ## Listed directories -/

namespace FileSystem

/-- Right below the directory that a path leads to, there is an entry of the given name. -/
def HasBelow (fs : FileSystem) (dir name : String) (entry : Entry) : Prop :=
  ∃ place, fs.locate dir = .ok place ∧ fs.entryAt place = some .directory ∧
    fs.entryAt (place ++ [name]) = some entry

variable {fs : FileSystem} {dir name : String} {entry : Entry} {place : Place}
  {list : List (String × Entry)}

theorem mem_childrenAt_iff : (name, entry) ∈ fs.childrenAt place ↔ fs.entryAt (place ++ [name]) = some entry := by
  have hentry : fs.entryAt (place ++ [name]) = fs.entries.get? (place ++ [name]) := by simp [entryAt]
  rw [hentry, childrenAt, List.mem_filterMap]
  constructor
  · rintro ⟨⟨there, here⟩, hmem, hchild⟩
    -- the last name of the place is the one that is listed
    split at hchild
    · next last hlast =>
      split at hchild
      · next hthere =>
        cases hchild
        exact hthere ▸ Dict.get?_of_mem_entries hmem
      · cases hchild
    · cases hchild
  · intro h
    exact ⟨_, Dict.mem_entries_of_get? h, by simp⟩

/-- A path can be listed if it leads to a directory. -/
theorem children_eq_ok_iff : fs.children dir = .ok list ↔
    ∃ place, fs.locate dir = .ok place ∧ fs.entryAt place = some .directory ∧
      list = (fs.childrenAt place).mergeSort fun a b => !(b.1 < a.1) := by
  rw [children, find]
  cases hlocate : fs.locate dir with
  | error e => simp
  | ok place =>
    cases hentry : fs.entryAt place with
    | none => simp [hentry]
    | some entry =>
      cases entry with
      | directory =>
        simp only [hentry]
        constructor
        · exact fun h => ⟨place, rfl, hentry, (Except.ok.inj h).symm⟩
        · rintro ⟨_, ⟨⟩, -, rfl⟩
          rfl
      | _ => cases meansDirectory dir <;> simp [hentry]

/-- What is listed is what is right below. -/
theorem mem_children_iff (h : fs.children dir = .ok list) :
    (name, entry) ∈ list ↔ fs.HasBelow dir name entry := by
  obtain ⟨place, hplace, hdirectory, rfl⟩ := children_eq_ok_iff.1 h
  rw [List.mem_mergeSort, mem_childrenAt_iff]
  constructor
  · exact fun hentry => ⟨place, hplace, hdirectory, hentry⟩
  · rintro ⟨_, hplace', -, hentry⟩
    cases hplace.symm.trans hplace'
    exact hentry

/-- What has something below it can be listed. -/
theorem HasBelow.exists_children (h : fs.HasBelow dir name entry) : ∃ list, fs.children dir = .ok list := by
  obtain ⟨place, hplace, hdirectory, -⟩ := h
  exact ⟨_, children_eq_ok_iff.2 ⟨place, hplace, hdirectory, rfl⟩⟩

/-- It is listed in the order of the names, byte by byte. -/
theorem pairwise_children (h : fs.children dir = .ok list) :
    list.Pairwise fun a b => Text.encode a.1 ≤ Text.encode b.1 := by
  obtain ⟨place, -, -, rfl⟩ := children_eq_ok_iff.1 h
  have hsorted : ((fs.childrenAt place).mergeSort fun a b => !(b.1 < a.1)).Pairwise
      fun a b => (!decide (b.1 < a.1)) = true := by
    refine List.pairwise_mergeSort (fun a b c hab hbc => ?_) (fun a b => ?_) _
    · simp only [Bool.not_eq_true', decide_eq_false_iff_not, String.not_lt] at hab hbc ⊢
      exact String.le_trans hab hbc
    · simpa [← String.not_lt, or_iff_not_imp_left] using String.le_total a.1 b.1
  refine hsorted.imp fun hle => ?_
  rw [Text.encode_le_encode_iff, ← String.not_lt]
  simpa using hle

/-- The first match in a list that is in order comes before all others. -/
theorem rel_of_find? {α : Type} {r : α → α → Prop} {p : α → Bool} {l : List α} {a b : α} (h : l.Pairwise r)
    (hfind : l.find? p = some a) (hb : b ∈ l) (hp : p b = true) : a = b ∨ r a b := by
  obtain ⟨-, before, after, rfl, hbefore⟩ := List.find?_eq_some_iff_append.1 hfind
  rcases List.mem_append.1 hb with hb | hb
  · have hfails : p b = false := by simpa using hbefore b hb
    rw [hp] at hfails
    cases hfails
  · rcases List.mem_cons.1 hb with rfl | hb
    · exact .inl rfl
    · exact .inr (List.rel_of_pairwise_cons (List.pairwise_append.1 h).2.1 hb)

end FileSystem

/-! ## The program's directory -/

namespace Renderer

open FileSystem

variable {fs : FileSystem} {dir name : String}

theorem isExtension_iff {p : String × Entry} : isExtension p = true ↔
    p.2 = .directory ∧ directoryStart.toList <+: Text.lowerText p.1.toList := by
  simp [isExtension]

/-- A directory right below another one whose name, in lower case, begins as that of the program's directory. -/
structure IsInstalled (fs : FileSystem) (dir name : String) : Prop where
  /-- It is right below, and it is a directory. -/
  below : fs.HasBelow dir name .directory
  /-- Its name begins as it should. -/
  named : directoryStart.toList <+: Text.lowerText name.toList

/-- The program may be in a directory if this is listed and of its kind. -/
theorem isInstalled_iff {list : List (String × Entry)} (h : fs.children dir = .ok list) :
    IsInstalled fs dir name ↔ (name, .directory) ∈ list ∧ isExtension (name, .directory) = true := by
  rw [mem_children_iff h, isExtension_iff]
  exact ⟨fun hi => ⟨hi.below, rfl, hi.named⟩, fun hi => ⟨hi.1, hi.2.2⟩⟩

/-- The first by name of the directories that the program may be in. -/
structure IsFirst (fs : FileSystem) (dir name : String) : Prop extends IsInstalled fs dir name where
  /-- No other name has lesser bytes. -/
  least : ∀ other, IsInstalled fs dir other → Text.encode name ≤ Text.encode other

/-- There is one first. -/
theorem IsFirst.unique {other : String} (h : IsFirst fs dir name) (hother : IsFirst fs dir other) :
    name = other := by
  have hle := (Text.encode_le_encode_iff name other).1 (h.least other hother.toIsInstalled)
  have hge := (Text.encode_le_encode_iff other name).1 (hother.least name h.toIsInstalled)
  exact String.le_antisymm hle hge

/-- The failure if the program is not found. -/
def missing (dir : String) : Failure := .renderer ("Could not find the renderer under " ++ dir)

/-- **The first of the directories is found**, if the program may be in any. -/
theorem findExtension_cases (fs : FileSystem) (dir : String) :
    (∃ name, IsFirst fs dir name ∧ findExtension fs dir = .ok (Path.join dir name)) ∨
      (∀ name, ¬IsInstalled fs dir name) ∧ findExtension fs dir = .error (missing dir) := by
  rw [findExtension]
  cases hlist : fs.children dir with
  | error fault =>
    refine .inr ⟨fun name h => ?_, rfl⟩
    obtain ⟨list, hlist'⟩ := h.below.exists_children
    cases hlist.symm.trans hlist'
  | ok list =>
    have hall : (Except.ok (ε := FileFault) list).toOption.getD [] = list := rfl
    rw [hall]
    cases hfind : list.find? isExtension with
    | none =>
      refine .inr ⟨fun name h => ?_, rfl⟩
      obtain ⟨hmem, hname⟩ := (isInstalled_iff hlist).1 h
      exact List.find?_eq_none.1 hfind _ hmem hname
    | some p =>
      obtain ⟨name, entry⟩ := p
      have hfits := List.find?_some hfind
      obtain ⟨rfl, -⟩ := isExtension_iff.1 hfits
      have hinstalled := (isInstalled_iff hlist).2 ⟨List.mem_of_find?_eq_some hfind, hfits⟩
      refine .inl ⟨name, ⟨hinstalled, fun other hother => ?_⟩, rfl⟩
      obtain ⟨hmem, hname⟩ := (isInstalled_iff hlist).1 hother
      rcases rel_of_find? (pairwise_children hlist) hfind hmem hname with heq | hle
      · cases heq
        exact List.le_refl _
      · exact hle

/-- A directory that the program may be in has a name of its own, unless this has a slash in it. -/
theorem IsInstalled.fileName? (h : IsInstalled fs dir name) (hslash : '/' ∉ name.toList) :
    Path.fileName? name = some name := by
  -- no step is spelled as the directory of the program is
  have hstep : ∀ step ∈ ["", ".", ".."], ¬directoryStart.toList <+: Text.lowerText step.toList := by
    decide +kernel
  have hne : ∀ step ∈ ["", ".", ".."], name ≠ step := fun step hmem heq => hstep step hmem (heq ▸ h.named)
  refine Path.fileName?_of_slash_not_mem hslash ?_ (hne ".." (by simp))
  simpa [Path.isIdle] using And.intro (hne "" (by simp)) (hne "." (by simp))

/-- What the search for the program's directory comes to. -/
structure FindsFirst (fs : FileSystem) (dir : String) : Prop where
  /-- A path is found if and only if it is that of the first directory that the program may be in: of all those
  right below whose names in lower case begin as they should, the one whose own name has the least bytes. -/
  found_iff : ∀ found, findExtension fs dir = .ok found ↔ ∃ name, IsInstalled fs dir name ∧
    (∀ other, IsInstalled fs dir other → Text.encode name ≤ Text.encode other) ∧ found = Path.join dir name
  /-- There is a failure if and only if nothing can be listed or there is no such directory, and it says so. -/
  fails_iff : ∀ failure, findExtension fs dir = .error failure ↔
    ((∃ fault, fs.children dir = .error fault) ∨ ∀ name, ¬IsInstalled fs dir name) ∧
      failure = .renderer ("Could not find the renderer under " ++ dir)
  /-- What may be found is a directory, one step below the one that is searched. -/
  leads : ∀ name, IsInstalled fs dir name → '/' ∉ name.toList →
    ∃ place, fs.locate dir = .ok place ∧ fs.locate (Path.join dir name) = .ok (place ++ [name]) ∧
      fs.find (Path.join dir name) = .ok .directory
  /-- Nothing else has a bearing on the answer, nor has the order in which there came to be what there is. -/
  settled : ∀ fs', (∀ name, IsInstalled fs' dir name ↔ IsInstalled fs dir name) →
    findExtension fs' dir = findExtension fs dir

/-- **The program's directory is the first by name** of those that it may be, whatever else there is. -/
theorem findsFirst (fs : FileSystem) (dir : String) : FindsFirst fs dir where
  found_iff found := by
    constructor
    · intro h
      obtain ⟨name, hfirst, hfound⟩ | ⟨-, hfails⟩ := findExtension_cases fs dir
      · exact ⟨name, hfirst.toIsInstalled, hfirst.least, Except.ok.inj (h.symm.trans hfound)⟩
      · cases h.symm.trans hfails
    · rintro ⟨name, hinstalled, hleast, rfl⟩
      obtain ⟨other, hfirst, hfound⟩ | ⟨hnone, -⟩ := findExtension_cases fs dir
      · rw [hfound, hfirst.unique ⟨hinstalled, hleast⟩]
      · exact absurd hinstalled (hnone name)
  fails_iff failure := by
    constructor
    · intro h
      obtain ⟨name, -, hfound⟩ | ⟨hnone, hfails⟩ := findExtension_cases fs dir
      · cases h.symm.trans hfound
      · exact ⟨.inr hnone, Except.error.inj (h.symm.trans hfails)⟩
    · rintro ⟨hnothing, rfl⟩
      obtain ⟨name, hfirst, -⟩ | ⟨-, hfails⟩ := findExtension_cases fs dir
      · rcases hnothing with ⟨fault, hfault⟩ | hnone
        · obtain ⟨list, hlist⟩ := hfirst.below.exists_children
          cases hfault.symm.trans hlist
        · exact absurd hfirst.toIsInstalled (hnone name)
      · exact hfails
  leads name h hslash := by
    obtain ⟨place, hplace, hdirectory, hentry⟩ := h.below
    have hlocate := locate_join_fileName hplace hdirectory (h.fileName? hslash)
    refine ⟨place, hplace, hlocate, ?_⟩
    rw [find, hlocate]
    simp only [hentry]
  settled fs' h := by
    have hfirst : ∀ name, IsFirst fs' dir name ↔ IsFirst fs dir name := fun name =>
      ⟨fun hf => ⟨(h name).1 hf.toIsInstalled, fun other ho => hf.least other ((h other).2 ho)⟩,
        fun hf => ⟨(h name).2 hf.toIsInstalled, fun other ho => hf.least other ((h other).1 ho)⟩⟩
    obtain ⟨name, hname, hfound⟩ | ⟨hnone, hfails⟩ := findExtension_cases fs dir
    · obtain ⟨name', hname', hfound'⟩ | ⟨hnone', -⟩ := findExtension_cases fs' dir
      · rw [hfound, hfound', hname.unique ((hfirst name').1 hname')]
      · exact absurd ((h name).2 hname.toIsInstalled) (hnone' name)
    · obtain ⟨name', hname', -⟩ | ⟨-, hfails'⟩ := findExtension_cases fs' dir
      · exact absurd ((h name').1 hname'.toIsInstalled) (hnone name')
      · rw [hfails, hfails']

end Renderer

end TraceDiagram
