/-! # Sets of texts

* **`TextSet`** texts in order, each once.
* **`TextSet.insert`** adds a text, **`TextSet.addAll`** some texts, **`TextSet.ofList`** reads texts in any order.
* **`mem_insert`**, **`mem_addAll`**, **`mem_ofList`** say which texts are in; **`ofList_eq_of_mem_iff`** nothing
  else matters, so **`ofList_items`** reads a set's own texts back.
-/

namespace TraceDiagram

/-- Adds a text to texts in order, unless it is there. -/
def insertSorted (s : String) : List String → List String
  | [] => [s]
  | t :: rest => if s < t then s :: t :: rest else if s = t then t :: rest else t :: insertSorted s rest

theorem mem_insertSorted {s u : String} {items : List String} :
    u ∈ insertSorted s items ↔ u = s ∨ u ∈ items := by
  induction items with
  | nil => simp [insertSorted]
  | cons t rest ih =>
    unfold insertSorted
    split
    · simp
    · split
      · next h => subst h; simp
      · simp only [List.mem_cons, ih]
        constructor
        · rintro (h | h | h)
          · exact .inr (.inl h)
          · exact .inl h
          · exact .inr (.inr h)
        · rintro (h | h | h)
          · exact .inr (.inl h)
          · exact .inl h
          · exact .inr (.inr h)

theorem pairwise_insertSorted {s : String} {items : List String}
    (h : items.Pairwise (· < ·)) : (insertSorted s items).Pairwise (· < ·) := by
  induction items with
  | nil => simp [insertSorted]
  | cons t rest ih =>
    rw [List.pairwise_cons] at h
    unfold insertSorted
    split
    · next hs =>
      refine List.pairwise_cons.2 ⟨?_, List.pairwise_cons.2 h⟩
      intro u hu
      rcases List.mem_cons.1 hu with rfl | hu
      · exact hs
      · exact String.lt_trans hs (h.1 u hu)
    · next hs =>
      split
      · exact List.pairwise_cons.2 h
      · next hne =>
        refine List.pairwise_cons.2 ⟨?_, ih h.2⟩
        intro u hu
        rcases mem_insertSorted.1 hu with rfl | hu
        · rcases Decidable.em (t < u) with hlt | hlt
          · exact hlt
          · exact absurd (String.le_antisymm (String.not_lt.1 hlt) (String.not_lt.1 hs)) hne
        · exact h.1 u hu

/-- Texts in order, each once. -/
structure TextSet where
  /-- The texts. -/
  items : List String
  /-- They stand in order, and none stands twice. -/
  sorted : items.Pairwise (· < ·) := by simp
  deriving DecidableEq, Repr

namespace TextSet

instance : EmptyCollection TextSet := ⟨{ items := [] }⟩

instance : Inhabited TextSet := ⟨∅⟩

@[simp] theorem items_empty : (∅ : TextSet).items = [] := rfl

/-- Whether a text is in the set. -/
def contains (set : TextSet) (s : String) : Bool := set.items.contains s

theorem contains_iff {set : TextSet} {s : String} : set.contains s = true ↔ s ∈ set.items :=
  List.contains_iff_mem

/-- Adds a text. -/
def insert (set : TextSet) (s : String) : TextSet where
  items := insertSorted s set.items
  sorted := pairwise_insertSorted set.sorted

/-- Adds texts in any order. -/
def addAll (set : TextSet) (items : List String) : TextSet := items.foldl insert set

/-- Reads texts in any order. -/
def ofList (items : List String) : TextSet := items.foldl insert ∅

theorem mem_insert {set : TextSet} {s u : String} :
    u ∈ (set.insert s).items ↔ u = s ∨ u ∈ set.items := mem_insertSorted

theorem mem_addAll {set : TextSet} {items : List String} {u : String} :
    u ∈ (set.addAll items).items ↔ u ∈ set.items ∨ u ∈ items := by
  rw [addAll]
  induction items generalizing set with
  | nil => simp
  | cons s rest ih =>
    rw [List.foldl_cons, ih, mem_insert, List.mem_cons]
    exact or_assoc.trans or_left_comm

theorem mem_ofList {items : List String} {u : String} : u ∈ (ofList items).items ↔ u ∈ items := by
  rw [ofList, ← addAll, mem_addAll]
  simp

theorem nodup_items (set : TextSet) : set.items.Nodup := by
  have hne {s t : String} (hlt : s < t) : s ≠ t := fun heq => String.lt_irrefl t (heq ▸ hlt)
  exact set.sorted.imp hne

/-- Texts that are those of a set are read as the set, in whatever order and however often they are listed. -/
theorem ofList_eq_of_mem_iff {listed : List String} {set : TextSet}
    (h : ∀ u, u ∈ listed ↔ u ∈ set.items) : ofList listed = set := by
  have hperm : (ofList listed).items.Perm set.items :=
    (List.perm_ext_iff_of_nodup (nodup_items _) (nodup_items set)).2 fun u => by rw [mem_ofList, h]
  have hitems : (ofList listed).items = set.items :=
    hperm.eq_of_pairwise (fun _ _ _ _ hlt hgt => absurd hgt (String.lt_asymm hlt)) (ofList listed).sorted
      set.sorted
  cases hset : ofList listed
  rw [hset] at hitems
  cases hitems
  rfl

/-- Reading a set's own texts gives it back. -/
@[simp] theorem ofList_items (set : TextSet) : ofList set.items = set :=
  ofList_eq_of_mem_iff fun _ => Iff.rfl

end TextSet

end TraceDiagram
