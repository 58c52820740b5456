/-! # Ordered dictionaries

A finite map that remembers the order in which its keys were first given. A key given again keeps its
place and takes the new value.

* **`Dict`** a list of pairs with distinct keys.
* **`Dict.insert`** sets a key, **`Dict.modify`** changes a value that is there.
* **`Dict.ofList`** reads a list of pairs, later values winning.
* **`get?_insert`**, **`keys_insert`** say what an insertion does to the two views `get?` and `keys`.
-/

namespace TraceDiagram

/-- Sets `k` to `v` in a list of pairs: in place if the key is there, at the end if not. -/
def assignPair {κ α : Type} [DecidableEq κ] (k : κ) (v : α) : List (κ × α) → List (κ × α)
  | [] => [(k, v)]
  | (k', v') :: rest => if k' = k then (k, v) :: rest else (k', v') :: assignPair k v rest

theorem map_fst_assignPair {κ α : Type} [DecidableEq κ] (k : κ) (v : α) (ps : List (κ × α)) :
    (assignPair k v ps).map Prod.fst =
      if k ∈ ps.map Prod.fst then ps.map Prod.fst else ps.map Prod.fst ++ [k] := by
  induction ps with
  | nil => simp [assignPair]
  | cons p rest ih =>
    obtain ⟨k', v'⟩ := p
    by_cases h : k' = k
    · simp [assignPair, h]
    · have h' : k ≠ k' := fun e => h e.symm
      by_cases hm : k ∈ rest.map Prod.fst
      · simp only [assignPair, if_neg h, List.map_cons, ih, List.mem_cons, hm, or_true, if_true]
      · simp only [assignPair, if_neg h, List.map_cons, ih, List.mem_cons, h', hm, or_self, if_false,
          List.cons_append]

/-- The first pair gives the value of its key, the others that of every other key. -/
theorem lookup_cons_ite {κ α : Type} [DecidableEq κ] (k k' : κ) (v : α) (rest : List (κ × α)) :
    ((k', v) :: rest).lookup k = if k = k' then some v else rest.lookup k := by
  by_cases h : k = k'
  · simp [h]
  · have hb : (k == k') = false := by simpa using h
    rw [List.lookup_cons, hb, if_neg h]

theorem lookup_assignPair {κ α : Type} [DecidableEq κ] (k k' : κ) (v : α) (ps : List (κ × α)) :
    (assignPair k v ps).lookup k' = if k' = k then some v else ps.lookup k' := by
  induction ps with
  | nil => rw [assignPair, lookup_cons_ite]
  | cons p rest ih =>
    obtain ⟨k₀, v₀⟩ := p
    rw [assignPair, lookup_cons_ite]
    by_cases h₀ : k₀ = k
    · -- the pair of the key is replaced
      subst h₀
      rw [if_pos rfl, lookup_cons_ite]
      by_cases h : k' = k₀ <;> simp [h]
    · rw [if_neg h₀, lookup_cons_ite, ih]
      by_cases h : k' = k₀
      · subst h
        simp [h₀]
      · simp [h]

/-- The keys of some pairs are those that have a value. -/
theorem mem_map_fst_iff_lookup_ne_none {κ α : Type} [DecidableEq κ] {k : κ} {ps : List (κ × α)} :
    k ∈ ps.map Prod.fst ↔ ps.lookup k ≠ none := by
  induction ps with
  | nil => simp
  | cons p rest ih =>
    obtain ⟨k', v'⟩ := p
    rw [List.map_cons, List.mem_cons, ih, lookup_cons_ite]
    by_cases h : k = k' <;> simp [h]

/-- A key without a pair has no value. -/
theorem lookup_of_not_mem {κ α : Type} [DecidableEq κ] {k : κ} {ps : List (κ × α)}
    (h : k ∉ ps.map Prod.fst) : ps.lookup k = none :=
  Decidable.not_not.1 (mt mem_map_fst_iff_lookup_ne_none.2 h)

/-- Setting a key to the value that it has changes nothing. -/
theorem assignPair_of_lookup {κ α : Type} [DecidableEq κ] {k : κ} {v : α} {ps : List (κ × α)}
    (h : ps.lookup k = some v) : assignPair k v ps = ps := by
  induction ps with
  | nil => cases h
  | cons p rest ih =>
    obtain ⟨k', v'⟩ := p
    rw [lookup_cons_ite] at h
    by_cases hk : k' = k
    · subst hk
      obtain rfl : v' = v := by simpa using h
      simp [assignPair]
    · rw [if_neg fun e => hk e.symm] at h
      rw [assignPair, if_neg hk, ih h]

/-- A dictionary: pairs of a key and a value, in the order the keys were first given. -/
structure Dict (κ α : Type) where
  /-- The pairs, in order. -/
  entries : List (κ × α)
  /-- No key stands twice. -/
  nodup_keys : (entries.map Prod.fst).Nodup := by simp
  deriving DecidableEq, Repr

namespace Dict

variable {κ α : Type}

/-- The keys, in the order they were first given. -/
def keys (d : Dict κ α) : List κ := d.entries.map Prod.fst

/-- The values, in the order of their keys. -/
def values (d : Dict κ α) : List α := d.entries.map Prod.snd

/-- How many keys there are. -/
def size (d : Dict κ α) : Nat := d.entries.length

/-- Whether there is no key. -/
def isEmpty (d : Dict κ α) : Bool := d.entries.isEmpty

/-- The dictionary without keys. -/
def empty : Dict κ α := { entries := [] }

instance : EmptyCollection (Dict κ α) := ⟨empty⟩

instance : Inhabited (Dict κ α) := ⟨empty⟩

@[ext]
theorem ext_entries {d e : Dict κ α} (h : d.entries = e.entries) : d = e := by
  cases d; cases e; cases h; rfl

@[simp] theorem entries_empty : (∅ : Dict κ α).entries = [] := rfl

@[simp] theorem keys_empty : (∅ : Dict κ α).keys = [] := rfl

/-- A dictionary with a value is not empty. -/
theorem isEmpty_of_mem_values {d : Dict κ α} {v : α} (h : v ∈ d.values) : d.isEmpty = false := by
  obtain ⟨entry, hentry, -⟩ := List.mem_map.1 h
  exact List.isEmpty_eq_false_iff.2 (List.ne_nil_of_mem hentry)

theorem keys_nodup (d : Dict κ α) : d.keys.Nodup := d.nodup_keys

variable [DecidableEq κ]

/-- The value of a key. -/
def get? (d : Dict κ α) (k : κ) : Option α := d.entries.lookup k

/-- Whether a key is there. -/
def contains (d : Dict κ α) (k : κ) : Bool := (d.get? k).isSome

@[simp] theorem get?_empty (k : κ) : (∅ : Dict κ α).get? k = none := rfl

/-- Sets a key: in place if it is there, at the end if not. -/
def insert (d : Dict κ α) (k : κ) (v : α) : Dict κ α where
  entries := assignPair k v d.entries
  nodup_keys := by
    rw [map_fst_assignPair]
    split
    · exact d.nodup_keys
    · next h =>
      refine List.nodup_append.2 ⟨d.nodup_keys, by simp, ?_⟩
      intro a ha b hb e
      simp only [List.mem_singleton] at hb
      exact h (hb ▸ e ▸ ha)

@[simp] theorem entries_insert (d : Dict κ α) (k : κ) (v : α) :
    (d.insert k v).entries = assignPair k v d.entries := rfl

/-- An inserted key has the inserted value, every other key the value it had. -/
@[simp] theorem get?_insert (d : Dict κ α) (k k' : κ) (v : α) :
    (d.insert k v).get? k' = if k' = k then some v else d.get? k' :=
  lookup_assignPair k k' v d.entries

/-- A known key keeps its place and a new key goes to the end. -/
theorem keys_insert (d : Dict κ α) (k : κ) (v : α) :
    (d.insert k v).keys = if k ∈ d.keys then d.keys else d.keys ++ [k] :=
  map_fst_assignPair k v d.entries

/-- Setting a key to the value that it has changes nothing. -/
theorem insert_of_get? {d : Dict κ α} {k : κ} {v : α} (h : d.get? k = some v) : d.insert k v = d :=
  ext_entries (assignPair_of_lookup h)

/-- Applies `f` to the value of `k`, if there is one. -/
def modify (d : Dict κ α) (k : κ) (f : α → α) : Dict κ α :=
  match d.get? k with
  | some v => d.insert k (f v)
  | none => d

/-- Sets a key only if it is missing. -/
def insertNew (d : Dict κ α) (k : κ) (v : α) : Dict κ α :=
  if d.contains k then d else d.insert k v

/-- A key that is set if missing keeps the value it had, if it had one. -/
@[simp] theorem get?_insertNew (d : Dict κ α) (k k' : κ) (v : α) :
    (d.insertNew k v).get? k' = if k' = k then some ((d.get? k).getD v) else d.get? k' := by
  unfold insertNew contains
  by_cases hk : k' = k
  · subst hk
    cases h : d.get? k' <;> simp [h]
  · cases h : d.get? k <;> simp [hk]

/-- Reads pairs in order: a repeated key keeps its first place and takes the last value. -/
def ofList (ps : List (κ × α)) : Dict κ α :=
  ps.foldl (fun d p => d.insert p.1 p.2) ∅

theorem assignPair_append_of_not_mem {k : κ} {v : α} {ps : List (κ × α)}
    (h : k ∉ ps.map Prod.fst) : assignPair k v ps = ps ++ [(k, v)] := by
  induction ps with
  | nil => rfl
  | cons p rest ih =>
    obtain ⟨k', v'⟩ := p
    simp only [List.map_cons, List.mem_cons, not_or] at h
    have hk : k' ≠ k := fun e => h.1 e.symm
    simp [assignPair, hk, ih h.2]

/-- Pairs with distinct keys are read as they stand. -/
theorem entries_ofList {ps : List (κ × α)} (h : (ps.map Prod.fst).Nodup) :
    (ofList ps).entries = ps := by
  suffices H : ∀ (qs : List (κ × α)) (d : Dict κ α),
      ((d.entries ++ qs).map Prod.fst).Nodup →
        (qs.foldl (fun d p => d.insert p.1 p.2) d).entries = d.entries ++ qs by
    simpa [ofList] using H ps ∅ (by simpa using h)
  intro qs
  induction qs with
  | nil => intro d _; simp
  | cons q qs ih =>
    intro d hd
    have hq : q.1 ∉ d.entries.map Prod.fst := by
      intro hm
      rw [List.map_append, List.nodup_append] at hd
      exact hd.2.2 q.1 hm q.1 (by simp) rfl
    have he : (d.insert q.1 q.2).entries = d.entries ++ [q] := by
      simpa using assignPair_append_of_not_mem hq
    rw [List.foldl_cons, ih _ (by rw [he]; simpa using hd), he]
    simp

/-- Reading a dictionary's own pairs gives it back. -/
@[simp] theorem ofList_entries (d : Dict κ α) : ofList d.entries = d :=
  ext_entries (entries_ofList d.nodup_keys)

/-- The value of a key stands beside it among the pairs. -/
theorem mem_entries_of_get? {d : Dict κ α} {k : κ} {v : α} (h : d.get? k = some v) :
    (k, v) ∈ d.entries := by
  obtain ⟨before, after, he, -⟩ := List.lookup_eq_some_iff.1 h
  rw [he]
  simp

/-- The pair of a key gives its value, as no key stands twice. -/
theorem get?_of_mem_entries {d : Dict κ α} {k : κ} {v : α} (h : (k, v) ∈ d.entries) :
    d.get? k = some v := by
  obtain ⟨before, after, he⟩ := List.append_of_mem h
  refine List.lookup_eq_some_iff.2 ⟨before, after, he, fun p hp => ?_⟩
  have hnodup := d.nodup_keys
  rw [he, List.map_append, List.nodup_append] at hnodup
  have hne : p.1 ≠ k := hnodup.2.2 p.1 (List.mem_map_of_mem hp) k (by simp)
  simpa using hne.symm

theorem mem_keys_iff_get?_ne_none (d : Dict κ α) (k : κ) : k ∈ d.keys ↔ d.get? k ≠ none :=
  mem_map_fst_iff_lookup_ne_none

end Dict

end TraceDiagram
