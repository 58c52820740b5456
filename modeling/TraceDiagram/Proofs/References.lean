import Mathlib.Data.List.Basic
import Mathlib.Data.List.Induction
import TraceDiagram.Cast

/-! # References to entities

What references to entities come to, however many there are and in whatever order.

* **`FirstOccurrences`** some texts, each once, in the order in which they first occur;
  **`firstOccurrences_eraseDups`** leaving later repeats out gives them.
* **`Cast.referAll`** takes note of one reference after the other; **`hintsOf`** what they tell about an entity.
* **`names_referAll`** and **`lifetime?_referAll`** the two views of a cast after some references.
* **`Cast.Settled`** what references settle and what later ones can change; **`settled_of_references`** they
  always do. -/

namespace TraceDiagram

/-! ## First occurrences -/

/-- The texts of a list, each once, in the order in which they first occur. -/
structure FirstOccurrences (texts once : List String) : Prop where
  /-- They are the texts of the list. -/
  mem : ∀ s, s ∈ once ↔ s ∈ texts
  /-- Each occurs first behind those in front of it, so that none stands twice. -/
  ordered : once.Pairwise fun s u => texts.idxOf s < texts.idxOf u

/-- What occurs first in front of something else is something else. -/
theorem FirstOccurrences.nodup {texts once : List String} (h : FirstOccurrences texts once) : once.Nodup := by
  refine h.ordered.imp fun hlt heq => ?_
  rw [heq] at hlt
  exact Nat.lt_irrefl _ hlt

/-- Leaving later repeats out keeps the order of the first occurrences. -/
theorem firstOccurrences_eraseDups (texts : List String) : FirstOccurrences texts texts.eraseDups := by
  refine ⟨fun s => List.mem_eraseDups, ?_⟩
  induction texts using List.reverseRecOn with
  | nil => exact .nil
  | append_singleton texts last ih =>
    -- the texts in front of the last one occur where they did before
    have hbefore : ∀ s ∈ texts, (texts ++ [last]).idxOf s = texts.idxOf s := fun s hs =>
      List.idxOf_append_of_mem hs
    have hold : texts.eraseDups.Pairwise fun s u =>
        (texts ++ [last]).idxOf s < (texts ++ [last]).idxOf u := by
      refine ih.imp_of_mem fun hs hu h => ?_
      rwa [hbefore _ (List.mem_eraseDups.1 hs), hbefore _ (List.mem_eraseDups.1 hu)]
    rw [List.eraseDups_append]
    by_cases hlast : last ∈ texts
    · have hnone : [last].removeAll texts = [] := by simp [List.removeAll, hlast]
      rwa [hnone, List.eraseDups_nil, List.append_nil]
    · have hnew : [last].removeAll texts = [last] := by simp [List.removeAll, hlast]
      have hone : [last].eraseDups = [last] := by simp [List.eraseDups_cons]
      rw [hnew, hone, List.pairwise_append]
      refine ⟨hold, List.pairwise_singleton _ _, fun s hs u hu => ?_⟩
      have hs : s ∈ texts := List.mem_eraseDups.1 hs
      rw [List.mem_singleton.1 hu, hbefore s hs, List.idxOf_append_of_notMem hlast]
      exact Nat.lt_add_right _ (List.idxOf_lt_length_of_mem hs)

/-! ## Hints -/

/-- What some references tell about an entity, in order; those that tell nothing are left out. -/
def hintsOf (name : String) (refs : List (String × Lifetime)) : List Lifetime :=
  (refs.filter fun ref => ref.1 = name ∧ ref.2 ≠ .any).map Prod.snd

theorem hintsOf_append (name : String) (refs later : List (String × Lifetime)) :
    hintsOf name (refs ++ later) = hintsOf name refs ++ hintsOf name later := by
  rw [hintsOf, List.filter_append, List.map_append, hintsOf, hintsOf]

theorem mem_hintsOf {name : String} {refs : List (String × Lifetime)} {hint : Lifetime} :
    hint ∈ hintsOf name refs ↔ (name, hint) ∈ refs ∧ hint ≠ .any := by
  simp only [hintsOf, List.mem_map, List.mem_filter, decide_eq_true_eq]
  constructor
  · rintro ⟨⟨_, _⟩, ⟨hmem, rfl, hne⟩, rfl⟩
    exact ⟨hmem, hne⟩
  · rintro ⟨hmem, hne⟩
    exact ⟨(name, hint), ⟨hmem, rfl, hne⟩, rfl⟩

/-- What is known about an entity from some references alone: the first hint. -/
def toldOf (name : String) (refs : List (String × Lifetime)) : Lifetime :=
  (hintsOf name refs).head?.getD .any

theorem toldOf_eq_any_iff (name : String) (refs : List (String × Lifetime)) :
    toldOf name refs = .any ↔ hintsOf name refs = [] := by
  rw [toldOf]
  cases h : hintsOf name refs with
  | nil => simp
  | cons hint hints =>
    have hne : hint ≠ .any := (mem_hintsOf.1 (h ▸ List.mem_cons_self)).2
    simpa using hne

/-- What is known tells the first hint. -/
theorem head?_hintsOf (name : String) (refs : List (String × Lifetime)) :
    (hintsOf name refs).head? = if toldOf name refs = .any then none else some (toldOf name refs) := by
  by_cases h : hintsOf name refs = []
  · rw [if_pos ((toldOf_eq_any_iff name refs).2 h), h, List.head?_nil]
  · obtain ⟨hint, hints, hcons⟩ := List.exists_cons_of_ne_nil h
    rw [if_neg (mt (toldOf_eq_any_iff name refs).1 h), toldOf, hcons, List.head?_cons, Option.getD_some]

theorem toldOf_eq_iff (name : String) (refs others : List (String × Lifetime)) :
    toldOf name refs = toldOf name others ↔ (hintsOf name refs).head? = (hintsOf name others).head? := by
  constructor
  · intro h
    rw [head?_hintsOf, head?_hintsOf, h]
  · intro h
    rw [toldOf, h, toldOf]

/-- A hint that comes first stays, and any other one only counts if there is none in front of it. -/
theorem toldOf_append (name : String) (refs later : List (String × Lifetime)) :
    toldOf name (refs ++ later) = (toldOf name refs).merge (toldOf name later) := by
  by_cases h : hintsOf name refs = []
  · rw [(toldOf_eq_any_iff name refs).2 h, Lifetime.any_merge, toldOf, hintsOf_append, h, List.nil_append,
      toldOf]
  · obtain ⟨hint, hints, hcons⟩ := List.exists_cons_of_ne_nil h
    rw [Lifetime.merge_of_ne_any (mt (toldOf_eq_any_iff name refs).1 h), toldOf, hintsOf_append, hcons,
      toldOf, hcons, List.cons_append, List.head?_cons, List.head?_cons]

theorem toldOf_cons (name : String) (ref : String × Lifetime) (refs : List (String × Lifetime)) :
    toldOf name (ref :: refs) = (if ref.1 = name then ref.2 else .any).merge (toldOf name refs) := by
  have hone : toldOf name [ref] = if ref.1 = name then ref.2 else .any := by
    obtain ⟨other, hint⟩ := ref
    by_cases hname : other = name
    · cases hint <;> simp [toldOf, hintsOf, hname]
    · simp [toldOf, hintsOf, hname]
  rw [← hone, ← toldOf_append, List.singleton_append]

/-- References to other entities tell nothing. -/
theorem toldOf_eq_any_of_not_mem {name : String} {refs : List (String × Lifetime)}
    (h : name ∉ refs.map Prod.fst) : toldOf name refs = .any := by
  refine (toldOf_eq_any_iff name refs).2 (List.eq_nil_iff_forall_not_mem.2 fun hint hhint => h ?_)
  exact List.mem_map.2 ⟨(name, hint), (mem_hintsOf.1 hhint).1, rfl⟩

/-! ## Casts -/

namespace Cast

/-- Takes note of one reference after the other. -/
def referAll (c : Cast) (refs : List (String × Lifetime)) : Cast :=
  refs.foldl (fun c ref => c.refer ref.1 ref.2) c

/-- The cast of some references. -/
def ofReferences (refs : List (String × Lifetime)) : Cast := ({} : Cast).referAll refs

@[simp] theorem referAll_nil (c : Cast) : c.referAll [] = c := rfl

@[simp] theorem referAll_cons (c : Cast) (ref : String × Lifetime) (refs : List (String × Lifetime)) :
    c.referAll (ref :: refs) = (c.refer ref.1 ref.2).referAll refs := rfl

theorem referAll_append (c : Cast) (refs later : List (String × Lifetime)) :
    c.referAll (refs ++ later) = (c.referAll refs).referAll later :=
  List.foldl_append

/-- References append the names that are new. -/
theorem names_referAll {c : Cast} {noted : List String} (h : c.names = noted.eraseDups)
    (refs : List (String × Lifetime)) :
    (c.referAll refs).names = (noted ++ refs.map Prod.fst).eraseDups := by
  induction refs generalizing c noted with
  | nil => simpa using h
  | cons ref refs ih =>
    have hstep : (c.refer ref.1 ref.2).names = (noted ++ [ref.1]).eraseDups := by
      rw [List.eraseDups_append, names_refer, h]
      by_cases hm : ref.1 ∈ noted
      · simp [hm, List.removeAll]
      · simp [hm, List.removeAll, List.eraseDups_cons]
    simpa using ih hstep

/-- References tell about the entities that they name, where nothing is known yet. -/
theorem lifetime?_referAll (c : Cast) (refs : List (String × Lifetime)) (name : String) :
    (c.referAll refs).lifetime? name =
      if name ∈ refs.map Prod.fst then some (((c.lifetime? name).getD .any).merge (toldOf name refs))
      else c.lifetime? name := by
  induction refs generalizing c with
  | nil => rfl
  | cons ref refs ih =>
    rw [referAll_cons, ih, lifetime?_refer, toldOf_cons]
    by_cases hname : name = ref.1
    · subst hname
      simp only [if_true, Option.getD_some, List.map_cons, List.mem_cons, true_or, Lifetime.merge_assoc]
      by_cases hmem : ref.1 ∈ refs.map Prod.fst
      · rw [if_pos hmem]
      · -- the references that follow tell nothing about it
        rw [if_neg hmem, toldOf_eq_any_of_not_mem hmem, Lifetime.merge_any]
    · have hmem : name ∈ (ref :: refs).map Prod.fst ↔ name ∈ refs.map Prod.fst := by
        rw [List.map_cons, List.mem_cons, or_iff_right hname]
      simp only [hmem, if_neg hname, if_neg (Ne.symm hname), Lifetime.any_merge]

theorem names_ofReferences (refs : List (String × Lifetime)) :
    (ofReferences refs).names = (refs.map Prod.fst).eraseDups := by
  have hempty : ({} : Cast).names = ([] : List String).eraseDups := rfl
  rw [ofReferences, names_referAll hempty, List.nil_append]

theorem lifetime?_ofReferences (refs : List (String × Lifetime)) (name : String) :
    (ofReferences refs).lifetime? name =
      if name ∈ refs.map Prod.fst then some (toldOf name refs) else none :=
  lifetime?_referAll {} refs name

/-- A reference that tells nothing new, wherever it stands, changes nothing. -/
theorem ofReferences_insert {refs : List (String × Lifetime)} {name : String} {hint : Lifetime}
    (hname : name ∈ refs.map Prod.fst) (hhint : (toldOf name refs).merge hint = toldOf name refs)
    (later : List (String × Lifetime)) :
    ofReferences (refs ++ (name, hint) :: later) = ofReferences (refs ++ later) := by
  have hknown : (ofReferences refs).lifetime? name = some (toldOf name refs) := by
    rw [lifetime?_ofReferences, if_pos hname]
  have hone : ofReferences (refs ++ (name, hint) :: later) =
      ((ofReferences refs).refer name hint).referAll later := by
    rw [ofReferences, referAll_append, referAll_cons, ofReferences]
  rw [hone, refer_of_known hknown hhint, ofReferences, ofReferences, referAll_append]

/-- What follows some references may come in another order. What is known about an entity changes if no hint
was there before and another one comes first then. -/
theorem lifetime?_reordered {later other : List (String × Lifetime)} (h : other.Perm later)
    (refs : List (String × Lifetime)) (name : String) :
    (ofReferences (refs ++ other)).lifetime? name ≠ (ofReferences (refs ++ later)).lifetime? name ↔
      hintsOf name refs = [] ∧ (hintsOf name other).head? ≠ (hintsOf name later).head? := by
  have hmem : name ∈ (refs ++ other).map Prod.fst ↔ name ∈ (refs ++ later).map Prod.fst :=
    ((h.append_left refs).map Prod.fst).mem_iff
  rw [lifetime?_ofReferences, lifetime?_ofReferences]
  have hsame : ((if name ∈ (refs ++ other).map Prod.fst then some (toldOf name (refs ++ other)) else none) =
      if name ∈ (refs ++ later).map Prod.fst then some (toldOf name (refs ++ later)) else none) ↔
      toldOf name (refs ++ other) = toldOf name (refs ++ later) := by
    by_cases hname : name ∈ (refs ++ later).map Prod.fst
    · rw [if_pos hname, if_pos (hmem.2 hname), Option.some_inj]
    · -- an entity that is not referred to is told nothing about in either order
      rw [if_neg hname, if_neg (mt hmem.1 hname), toldOf_eq_any_of_not_mem hname,
        toldOf_eq_any_of_not_mem (mt hmem.1 hname), eq_self_iff_true, eq_self_iff_true]
  rw [ne_eq, hsame, toldOf_append, toldOf_append]
  by_cases hbefore : hintsOf name refs = []
  · rw [(toldOf_eq_any_iff name refs).2 hbefore, Lifetime.any_merge, Lifetime.any_merge, toldOf_eq_iff,
      and_iff_right hbefore]
  · have hknown := mt (toldOf_eq_any_iff name refs).1 hbefore
    simp [Lifetime.merge_of_ne_any hknown, hbefore]

/-- What the references up to some point settle, and what those that follow can change about it. -/
structure Settled (refs : List (String × Lifetime)) : Prop where
  /-- The entities are those referred to, each once, in the order of their first references. -/
  names : FirstOccurrences (refs.map Prod.fst) (ofReferences refs).names
  /-- About each the first hint is known, and nothing if there is none. -/
  lifetimes : ∀ name, (ofReferences refs).lifetime? name =
    if name ∈ refs.map Prod.fst then some ((hintsOf name refs).head?.getD .any) else none
  /-- A reference that is repeated, wherever that is, changes nothing. -/
  repeated : ∀ ref ∈ refs, ∀ later,
    ofReferences (refs ++ ref :: later) = ofReferences (refs ++ later)
  /-- Nor does a further reference to an entity that tells nothing. -/
  silent : ∀ name ∈ refs.map Prod.fst, ∀ later,
    ofReferences (refs ++ (name, .any) :: later) = ofReferences (refs ++ later)
  /-- What follows may come in another order. What is known about an entity is different then exactly if no
  hint was there before and another one comes first. -/
  reordered : ∀ later other, other.Perm later → ∀ name,
    ((ofReferences (refs ++ other)).lifetime? name ≠ (ofReferences (refs ++ later)).lifetime? name ↔
      hintsOf name refs = [] ∧ (hintsOf name other).head? ≠ (hintsOf name later).head?)

/-- **References settle a cast.** For all references, the cast lists the entities in the order of their first
references and knows about each what the first hint tells. Of those that follow, a repeated one and one that
tells nothing can be left out, and their order matters for an entity only as far as it decides which hint comes
first. -/
theorem settled_of_references (refs : List (String × Lifetime)) : Settled refs where
  names := by
    rw [names_ofReferences]
    exact firstOccurrences_eraseDups _
  lifetimes := lifetime?_ofReferences refs
  repeated ref href later := by
    obtain ⟨name, hint⟩ := ref
    refine ofReferences_insert (List.mem_map_of_mem href) ?_ later
    by_cases hhint : hint = .any
    · rw [hhint, Lifetime.merge_any]
    · -- the reference itself has told something before
      have hhints : hintsOf name refs ≠ [] := List.ne_nil_of_mem (mem_hintsOf.2 ⟨href, hhint⟩)
      exact Lifetime.merge_of_ne_any (mt (toldOf_eq_any_iff name refs).1 hhints) hint
  silent name hname later := ofReferences_insert hname (Lifetime.merge_any _) later
  reordered _ _ hperm name := lifetime?_reordered hperm refs name

/-- The first of two hints decides. -/
example : (ofReferences [("Cache", .any), ("Cache", .deleted), ("Cache", .created)]).lifetime? "Cache" =
    some .deleted := by decide

end Cast

end TraceDiagram
