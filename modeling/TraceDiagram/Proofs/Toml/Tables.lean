import Mathlib.Data.List.Forall2
import TraceDiagram.Proofs.Toml.Lines

/-! # Tables in configuration files

A file is read back as the tables it was written for, with the keys in the same order.

* **`Storable`** the tables that a file can hold.
* **`Locus`** a place in a file under construction where a table grows; **`Reaches`** says that a path leads
  there.
* **`Grows`** what some blocks of lines add at a place; **`grows_table`** the blocks of a table add the table.
* **`read?_write`** a file is read back. -/

namespace TraceDiagram.Toml

open TraceDiagram.Text

/-- The tables that a file can hold, nested so many levels deep: the keys of each are distinct, and values
stand in front of inner tables. -/
def Storable : Nat → List (String × Toml) → Prop
  | 0, _ => False
  | depth + 1, pairs => (pairs.map Prod.fst).Nodup ∧ ∃ settings tables, pairs = settings ++ tables ∧
      (∀ p ∈ settings, Simple p.2) ∧ ∀ p ∈ tables, ∃ inner, p.2 = .table inner ∧ Storable depth inner

/-- What settings add to a table under construction. -/
def leaves (settings : List (String × Toml)) : Branches := settings.map fun p => (p.1, .leaf p.2)

theorem map_fst_leaves (settings : List (String × Toml)) :
    (leaves settings).map Prod.fst = settings.map Prod.fst := by
  simp [leaves]

theorem pairsOf_leaves (settings : List (String × Toml)) : pairsOf (leaves settings) = settings := by
  induction settings with
  | nil => rfl
  | cons p settings ih =>
    have hmore : pairsOf (settings.map fun p => (p.1, Branch.leaf p.2)) = settings := ih
    simp [leaves, pairsOf, Branch.toToml, hmore]

/-! ## Places in a file under construction -/

/-- A key that is new gets its value at the end, in place of the one it got last. -/
theorem assignPair_concat {k : String} {b : Branch} {bs : Branches} (hk : k ∉ bs.map Prod.fst) (b' : Branch) :
    assignPair k b' (bs ++ [(k, b)]) = bs ++ [(k, b')] := by
  induction bs with
  | nil => simp [assignPair]
  | cons p bs ih =>
    rw [List.map_cons, List.mem_cons, not_or] at hk
    rw [List.cons_append, assignPair, if_neg (Ne.symm hk.1), ih hk.2, List.cons_append]

theorem lookup_concat {k : String} {bs : Branches} (hk : k ∉ bs.map Prod.fst) (b : Branch) :
    (bs ++ [(k, b)]).lookup k = some b := by
  rw [List.lookup_append, lookup_of_not_mem hk]
  simp

/-- Among branches with distinct keys, the key of the last is new. -/
theorem not_mem_of_nodup_concat {k : String} {b : Branch} {bs : Branches}
    (h : ((bs ++ [(k, b)]).map Prod.fst).Nodup) : k ∉ bs.map Prod.fst := by
  rw [List.map_append] at h
  exact fun hmem => (List.nodup_append.1 h).2.2 _ hmem _ List.mem_cons_self rfl

section Paths

variable (made : TableOrigin) (change : TableOrigin → Branches → Option Branches)

/-- A path is followed step by step. -/
theorem atTable_append (path inner : List String) (origin : TableOrigin) (bs : Branches) :
    atTable made change (path ++ inner) origin bs =
      atTable made (atTable made change inner) path origin bs := by
  induction path generalizing origin bs with
  | nil => rfl
  | cons key path ih => simp only [List.cons_append, atTable, ih]

end Paths

/-- A path leads to a table: changing the table changes what is around it in the same way. -/
def Reaches (here : List String) (origin : TableOrigin) (around : Branches → Branches)
    (file bs : Branches) : Prop :=
  ∀ change, atTable .implied change here .headed file = (change origin bs).map around

/-- A place where a table may stand: `around` is the file with the table in it. -/
def Locus (here : List String) (origin : TableOrigin) (around : Branches → Branches) : Prop :=
  ∀ bs, Reaches here origin around (around bs) bs

section Loci

variable {here : List String} {origin : TableOrigin} {around : Branches → Branches} {file bs : Branches}
  {k : String}

/-- The whole file is a place. -/
theorem locus_nil : Locus [] .headed id := fun bs change => by
  rw [Option.map_id]
  rfl

/-- A table in the table at a place has a place of its own. -/
theorem Locus.inner (h : Locus here origin around) (hk : k ∉ bs.map Prod.fst) (origin' : TableOrigin) :
    Locus (here ++ [k]) origin' fun inner => around (bs ++ [(k, .table origin' inner)]) := by
  intro inner change
  rw [atTable_append, h]
  have hchange : atTable .implied change [k] origin (bs ++ [(k, .table origin' inner)]) =
      (change origin' inner).map fun inner => bs ++ [(k, .table origin' inner)] := by
    simp only [atTable, lookup_concat hk]
    rw [if_neg (by simp)]
    cases change origin' inner with
    | none => rfl
    | some inner' => exact congrArg some (assignPair_concat hk _)
  rw [hchange, Option.map_map]
  rfl

/-- A table that is missing comes about on the way to what it holds. -/
theorem Reaches.inner (h : Reaches here origin around file bs) (hk : k ∉ bs.map Prod.fst) :
    Reaches (here ++ [k]) .implied (fun inner => around (bs ++ [(k, .table .implied inner)])) file [] := by
  intro change
  rw [atTable_append, h]
  have hchange : atTable .implied change [k] origin bs =
      (change .implied []).map fun inner => bs ++ [(k, .table .implied inner)] := by
    simp only [atTable, lookup_of_not_mem hk]
    cases change .implied [] with
    | none => rfl
    | some inner' => exact congrArg some (Dict.assignPair_append_of_not_mem hk)
  rw [hchange, Option.map_map]
  rfl

/-- A heading begins a table. -/
theorem openTable_of_reaches (h : Reaches here origin around file bs) (hk : k ∉ bs.map Prod.fst) :
    openTable here k file = some (around (bs ++ [(k, .table .headed [])])) := by
  rw [openTable, h]
  simp only [lookup_of_not_mem hk, Option.map_some]

/-- Settings are added to the table with the last heading, in order. -/
theorem build_settings (h : Locus here .headed around) {settings : List (String × Toml)}
    (hnodup : ((bs.map Prod.fst) ++ settings.map Prod.fst).Nodup) (more : List Line) :
    build ((settings.map fun p => .setting [] p.1 p.2) ++ more) here (around bs) =
      build more here (around (bs ++ leaves settings)) := by
  induction settings generalizing bs with
  | nil => simp [leaves]
  | cons p settings ih =>
    have hk : p.1 ∉ bs.map Prod.fst := fun hmem =>
      (List.nodup_append.1 hnodup).2.2 _ hmem _ List.mem_cons_self rfl
    have hdefine : define [] p.1 p.2 .headed bs = some (bs ++ [(p.1, .leaf p.2)]) := by
      simp [define, atTable, lookup_of_not_mem hk]
    rw [List.map_cons, List.cons_append, build, h bs, hdefine, Option.map_some, Option.bind_some]
    rw [ih (by simpa using hnodup)]
    simp [leaves]

end Loci

/-! ## What blocks of lines add -/

/-- Some blocks of lines add branches to the table at a place, or make the table if it is missing. -/
def Grows (here : List String) (texts : List (List Char)) (added : Branches) : Prop :=
  ∃ blocks, List.Forall₂ ReadAs texts blocks ∧ ∀ origin around file bs, Locus here origin around →
    Reaches here origin around file bs → ((bs ++ added).map Prod.fst).Nodup →
    (file = around bs ∨ added ≠ []) → ∀ last, ∃ last', ∀ more,
      build (blocks.flatten ++ more) last file = build more last' (around (bs ++ added))

section Growing

variable {here : List String}

/-- Nothing adds nothing. -/
theorem Grows.nil : Grows here [] [] := by
  refine ⟨[], .nil, fun origin around file bs _ _ _ hfile last => ⟨last, fun more => ?_⟩⟩
  rw [hfile.resolve_right fun h => h rfl, List.append_nil]
  rfl

/-- What adds one branch comes first, then what adds the others. -/
theorem Grows.cons {texts texts' : List (List Char)} {p : String × Branch} {added : Branches}
    (h : Grows here texts [p]) (h' : Grows here texts' added) : Grows here (texts ++ texts') (p :: added) := by
  obtain ⟨blocks, hread, hbuild⟩ := h
  obtain ⟨blocks', hread', hbuild'⟩ := h'
  refine ⟨blocks ++ blocks', List.rel_append hread hread', ?_⟩
  intro origin around file bs hlocus hreaches hnodup hfile last
  have hothers : (((bs ++ [p]) ++ added).map Prod.fst).Nodup := by simpa using hnodup
  have hfirst : ((bs ++ [p]).map Prod.fst).Nodup := by
    rw [List.map_append] at hothers
    exact (List.nodup_append.1 hothers).1
  obtain ⟨mid, hmid⟩ := hbuild origin around file bs hlocus hreaches hfirst (.inr (List.cons_ne_nil _ _)) last
  -- the first branch is there now, so the others find the table as it should be
  obtain ⟨last', hlast⟩ := hbuild' origin around _ _ hlocus (hlocus (bs ++ [p])) hothers (.inl rfl) mid
  refine ⟨last', fun more => ?_⟩
  rw [List.flatten_append, List.append_assoc, hmid, hlast, List.append_assoc]
  rfl

end Growing

/-- What a list of branches holds when nothing is added any more. -/
theorem pairsOf_append (bs bs' : Branches) : pairsOf (bs ++ bs') = pairsOf bs ++ pairsOf bs' := by
  induction bs with
  | nil => rfl
  | cons p bs ih => simp [pairsOf, ih]

theorem map_fst_pairsOf (bs : Branches) : (pairsOf bs).map Prod.fst = bs.map Prod.fst := by
  induction bs with
  | nil => rfl
  | cons p bs ih => simp [pairsOf, ih]

/-- A value that holds no tables is written without blocks of its own. -/
theorem blocksOf_append {settings : List (String × Toml)} (h : ∀ p ∈ settings, Simple p.2) (path : List String)
    (tables : List (String × Toml)) : blocksOf path (settings ++ tables) = blocksOf path tables := by
  induction settings with
  | nil => rfl
  | cons p settings ih =>
    rw [List.forall_mem_cons] at h
    rw [List.cons_append, blocksOf, ih h.2]
    obtain ⟨k, v⟩ := p
    cases h.1 <;> simp [blocks]

/-- Values stand in the block of their own table. -/
theorem filter_settings {settings tables : List (String × Toml)} (hsettings : ∀ p ∈ settings, Simple p.2)
    {depth : Nat} (htables : ∀ p ∈ tables, ∃ inner, p.2 = .table inner ∧ Storable depth inner) :
    (settings ++ tables).filter (fun p => !isTable p.2) = settings := by
  rw [List.filter_append, List.filter_eq_self.2, List.filter_eq_nil_iff.2, List.append_nil]
  · intro p hp
    obtain ⟨inner, hinner, -⟩ := htables p hp
    simp [hinner, isTable]
  · intro p hp
    obtain ⟨k, v⟩ := p
    have hv : Simple v := hsettings _ hp
    cases hv <;> rfl

/-- The blocks of several tables add them one after the other, if those of each add it. -/
theorem grows_tables {depth : Nat} {here : List String} {tables : List (String × Toml)}
    (hone : ∀ inner, Storable depth inner → ∀ k, ∃ b : Branch, b.toToml = .table inner ∧
      Grows here (blocks (here ++ [k]) (.table inner)) [(k, b)])
    (h : ∀ p ∈ tables, ∃ inner, p.2 = .table inner ∧ Storable depth inner) :
    ∃ added, pairsOf added = tables ∧ Grows here (blocksOf here tables) added := by
  induction tables with
  | nil => exact ⟨[], rfl, .nil⟩
  | cons p tables ih =>
    rw [List.forall_mem_cons] at h
    obtain ⟨⟨inner, hp, hinner⟩, hothers⟩ := h
    obtain ⟨b, hb, hfirst⟩ := hone inner hinner p.1
    obtain ⟨added, hadded, hgrows⟩ := ih hothers
    refine ⟨(p.1, b) :: added, ?_, ?_⟩
    · rw [pairsOf, hb, hadded, ← hp]
    · rw [blocksOf, hp]
      exact hfirst.cons hgrows

section OneTable

variable {here : List String} {k : String} {texts : List (List Char)} {added : Branches}

/-- Without a heading, a table comes about with the first of those that it holds. -/
theorem Grows.implied (h : Grows (here ++ [k]) texts added) (hne : added ≠ [])
    (hnodup : (added.map Prod.fst).Nodup) : Grows here texts [(k, .table .implied added)] := by
  obtain ⟨blocks, hread, hbuild⟩ := h
  refine ⟨blocks, hread, fun origin around file bs hlocus hreaches hnodup' _ last => ?_⟩
  have hk : k ∉ bs.map Prod.fst := not_mem_of_nodup_concat hnodup'
  exact hbuild _ _ _ [] (hlocus.inner hk .implied) (hreaches.inner hk) hnodup (.inr hne) last

/-- With a heading, a table has its settings first. -/
theorem Grows.headed (h : Grows (here ++ [k]) texts added) (hlength : here.length < nestingLimit)
    {settings : List (String × Toml)} (hsettings : ∀ p ∈ settings, Simple p.2)
    (hnodup : (settings.map Prod.fst ++ added.map Prod.fst).Nodup) :
    Grows here ((headingLine (here ++ [k]) ++ settings.flatMap settingLine) :: texts)
      [(k, .table .headed (leaves settings ++ added))] := by
  obtain ⟨blocks, hread, hbuild⟩ := h
  have hheading : ReadAs (headingLine (here ++ [k])) [.heading here k] :=
    .of_line (by simp [headingLine]) fun rest => line_heading rest hlength k
  refine ⟨_, .cons (hheading.append (readAs_settings hsettings)) hread, ?_⟩
  intro origin around file bs hlocus hreaches hnodup' _ last
  have hk : k ∉ bs.map Prod.fst := not_mem_of_nodup_concat hnodup'
  have hinner := hlocus.inner hk .headed
  have hkeys : ((leaves settings ++ added).map Prod.fst).Nodup := by
    rwa [List.map_append, map_fst_leaves]
  have hsettings' : ∀ more, build ((settings.map fun p => .setting [] p.1 p.2) ++ more) (here ++ [k])
      (around (bs ++ [(k, .table .headed [])])) =
        build more (here ++ [k]) (around (bs ++ [(k, .table .headed (leaves settings))])) :=
    build_settings hinner (List.nodup_append.1 hnodup).1
  obtain ⟨last', hlast⟩ := hbuild _ _ _ _ hinner (hinner _) hkeys (.inl rfl) (here ++ [k])
  refine ⟨last', fun more => ?_⟩
  rw [List.flatten_cons, List.append_assoc, List.append_assoc, List.singleton_append, build,
    openTable_of_reaches hreaches hk, Option.bind_some, hsettings', hlast more]

end OneTable

/-- **The blocks of a table add it** to the table at a place, with all it holds. -/
theorem grows_table (depth : Nat) {pairs : List (String × Toml)} (h : Storable depth pairs)
    {here : List String} (hlength : here.length + depth ≤ nestingLimit) (k : String) :
    ∃ b : Branch, b.toToml = .table pairs ∧ Grows here (blocks (here ++ [k]) (.table pairs)) [(k, b)] := by
  induction depth generalizing pairs here k with
  | zero => exact h.elim
  | succ depth ih =>
    obtain ⟨hnodup, settings, tables, rfl, hsettings, htables⟩ := h
    have hlength' : (here ++ [k]).length + depth ≤ nestingLimit := by
      simpa [Nat.add_assoc, Nat.add_comm 1] using hlength
    obtain ⟨added, rfl, hgrows⟩ := grows_tables (fun inner hinner => ih hinner hlength') htables
    rw [List.map_append, map_fst_pairsOf] at hnodup
    rw [blocks, blocksOf_append hsettings, ownBlock, filter_settings hsettings htables]
    by_cases himplied : settings = [] ∧ added ≠ []
    · -- a table that holds nothing but tables has no heading
      obtain ⟨rfl, hne⟩ := himplied
      refine ⟨.table .implied added, rfl, ?_⟩
      have hhidden : (([] : List (String × Toml)).isEmpty &&
          ((here ++ [k]).isEmpty || !([] ++ pairsOf added).isEmpty)) = true := by
        obtain ⟨p, more, rfl⟩ := List.exists_cons_of_ne_nil hne
        simp [pairsOf]
      rw [if_pos hhidden, List.nil_append]
      exact hgrows.implied hne (List.nodup_append.1 hnodup).2.1
    · refine ⟨.table .headed (leaves settings ++ added), ?_, ?_⟩
      · rw [Branch.toToml, pairsOf_append, pairsOf_leaves]
      · have hshown : ¬(settings.isEmpty &&
            ((here ++ [k]).isEmpty || !(settings ++ pairsOf added).isEmpty)) = true := by
          cases settings with
          | nil =>
            have hempty : added = [] := Classical.not_not.1 fun hne => himplied ⟨rfl, hne⟩
            simp [hempty, pairsOf]
          | cons p settings => simp
        rw [if_neg hshown]
        exact hgrows.headed (by omega) hsettings hnodup

/-! ## Files -/

/-- Blocks are read one after the other; the empty lines between them have no meaning. -/
theorem readAs_join {texts : List (List Char)} {blocks : List (List Line)}
    (h : List.Forall₂ ReadAs texts blocks) : ReadAs (join ['\n'] texts) blocks.flatten := by
  induction h with
  | nil => exact .nil
  | @cons text block texts blocks hfirst hothers ih =>
    cases texts with
    | nil =>
      cases hothers
      simpa [join] using hfirst
    | cons text' texts =>
      have hline : ∀ rest, line (['\n'] ++ rest) = some (none, rest) := line_empty
      have hempty : ReadAs ['\n'] [] := .of_line (List.cons_ne_nil _ _) hline
      rw [join, List.flatten_cons, List.append_assoc]
      · exact hfirst.append (hempty.append ih)
      · simp

/-- A file that is read line by line does not begin with the mark that tells the order of bytes. -/
theorem withoutByteMark_of_readAs {cs : List Char} {ls : List Line} (h : ReadAs cs ls) :
    withoutByteMark cs = cs := by
  have hread := allLines_of_readAs h
  cases cs with
  | nil => rfl
  | cons c cs =>
    rw [withoutByteMark, if_neg]
    rintro rfl
    have hnone : allLines ('\uFEFF' :: cs) = none := rfl
    rw [hnone] at hread
    cases hread

/-- A file for a table is read line by line, and its lines build the table. -/
theorem exists_lines_of_write {depth : Nat} {pairs : List (String × Toml)} (h : Storable (depth + 1) pairs)
    (hdepth : depth ≤ nestingLimit) : ∃ ls branches, ReadAs (write pairs).toList ls ∧
      build ls [] [] = some branches ∧ pairsOf branches = pairs := by
  obtain ⟨hnodup, settings, tables, rfl, hsettings, htables⟩ := h
  have htables' : ∃ added, pairsOf added = tables ∧ Grows [] (blocksOf [] tables) added :=
    grows_tables (fun inner hinner => grows_table depth hinner (by simpa using hdepth)) htables
  obtain ⟨added, rfl, blocks', hread, hbuild⟩ := htables'
  rw [List.map_append, map_fst_pairsOf] at hnodup
  -- the settings of the file itself stand in front, without a heading
  have hown : ∃ own, List.Forall₂ ReadAs (ownBlock [] (settings ++ pairsOf added)) own ∧
      own.flatten = settings.map fun p => .setting [] p.1 p.2 := by
    rw [ownBlock, filter_settings hsettings htables]
    cases settings with
    | nil => exact ⟨[], .nil, rfl⟩
    | cons p settings => exact ⟨[_], .cons (readAs_settings hsettings) .nil, List.append_nil _⟩
  obtain ⟨own, hown, hlines⟩ := hown
  refine ⟨(own ++ blocks').flatten, leaves settings ++ added, ?_, ?_, ?_⟩
  · rw [write, String.toList_ofList, blocks, blocksOf_append hsettings]
    exact readAs_join (List.rel_append hown hread)
  · have hfirst : build ((settings.map fun p => .setting [] p.1 p.2) ++ blocks'.flatten) [] [] =
        build blocks'.flatten [] (leaves settings) :=
      build_settings locus_nil (by simpa using (List.nodup_append.1 hnodup).1) _
    obtain ⟨last, hothers⟩ := hbuild .headed id _ (leaves settings) locus_nil (locus_nil _)
      (by rwa [List.map_append, map_fst_leaves]) (.inl rfl) []
    have hall := hothers []
    rw [List.append_nil] at hall
    rw [List.flatten_append, hlines]
    exact hfirst.trans hall
  · rw [pairsOf_append, pairsOf_leaves]

/-- **Files are read back**: what has been written for a table is read as the same table, with its keys in the
same order. -/
theorem read?_write {depth : Nat} {pairs : List (String × Toml)} (h : Storable (depth + 1) pairs)
    (hdepth : depth ≤ nestingLimit) : read? (write pairs) = some pairs := by
  obtain ⟨ls, branches, hread, hbuild, rfl⟩ := exists_lines_of_write h hdepth
  rw [read?, withoutByteMark_of_readAs hread, allLines_of_readAs hread]
  change (build ls [] []).bind (fun branches => some (pairsOf branches)) = _
  rw [hbuild, Option.bind_some]

end TraceDiagram.Toml
