import TraceDiagram.Proofs.Compiling
import TraceDiagram.Proofs.Reading

/-! # Traces that go on

What has been read of a trace is not taken back when more lines follow.

* **`Lifetime.GrowsTo`** what is known of an entity stays, or something becomes known.
* **`ParsedTrace.GrowsTo`** a trace goes on as another one: its statements, its cast and what is known of the
  cast are still there. **`growsTo_store`** is the step lemma, and **`growsTo_append`** the run lemma.
* **`ParsedTrace.GrowsTo.exists_body`** the body of the first begins that of the other.
* **`growth_after`** both, for any reader, lines and layout. -/

namespace TraceDiagram

/-! ## Lifetimes -/

namespace Lifetime

/-- What was known of an entity is still known, or nothing was and now it is known to come or go. -/
def GrowsTo (known later : Lifetime) : Prop := later = known ∨ known = .any ∧ later.isDynamic = true

theorem GrowsTo.refl (l : Lifetime) : l.GrowsTo l := .inl rfl

theorem GrowsTo.trans {a b c : Lifetime} (h : a.GrowsTo b) (h' : b.GrowsTo c) : a.GrowsTo c := by
  rcases h with rfl | ⟨rfl, hb⟩
  · exact h'
  · rcases h' with rfl | ⟨rfl, hc⟩
    · exact .inr ⟨rfl, hb⟩
    · exact .inr ⟨rfl, hc⟩

/-- A further reference tells something only where nothing was known. -/
theorem growsTo_merge (known hint : Lifetime) : known.GrowsTo (known.merge hint) := by
  cases known with
  | any =>
    cases hint with
    | any => exact .refl _
    | created | deleted => exact .inr ⟨rfl, rfl⟩
  | created | deleted => exact .refl _

end Lifetime

/-! ## Traces -/

namespace ParsedTrace

/-- All that a trace says is still said by another one that goes on from it. -/
structure GrowsTo (t u : ParsedTrace) : Prop where
  /-- Its statements come first, in the same order. -/
  statements : t.statements <+: u.statements
  /-- The members of its cast come first, in the same order. -/
  names : t.cast.names <+: u.cast.names
  /-- What is known of a member stays, or it becomes known that it comes or goes. -/
  lifetimes : ∀ name known, t.cast.lifetime? name = some known →
    ∃ later, u.cast.lifetime? name = some later ∧ known.GrowsTo later
  /-- If the default group was used, it still is. -/
  flag : t.usesDefaultGroup = true → u.usesDefaultGroup = true

variable {t u v : ParsedTrace} {parents : Dict String String}

theorem GrowsTo.refl (t : ParsedTrace) : t.GrowsTo t :=
  ⟨List.prefix_rfl, List.prefix_rfl, fun _ known h => ⟨known, h, .refl known⟩, id⟩

theorem GrowsTo.trans (h : t.GrowsTo u) (h' : u.GrowsTo v) : t.GrowsTo v := by
  refine ⟨h.statements.trans h'.statements, h.names.trans h'.names, fun name known hknown => ?_,
    fun hflag => h'.flag (h.flag hflag)⟩
  obtain ⟨later, hlater, hgrows⟩ := h.lifetimes name known hknown
  obtain ⟨latest, hlatest, hgrows'⟩ := h'.lifetimes name later hlater
  exact ⟨latest, hlatest, hgrows.trans hgrows'⟩

/-- Taking note of a reference takes nothing back. -/
theorem growsTo_refer (t : ParsedTrace) (parents : Dict String String) (reference : String × Lifetime) :
    t.GrowsTo (t.refer parents reference) := by
  refine ⟨List.prefix_rfl, ?_, fun name known hknown => ?_, fun hflag => ?_⟩
  · have hnames : (t.refer parents reference).cast.names = _ := Cast.names_refer _ _ _
    rw [hnames]
    split
    · exact List.prefix_rfl
    · exact List.prefix_append _ _
  · have hlifetime : (t.refer parents reference).cast.lifetime? name = _ := Cast.lifetime?_refer _ _ _ _
    rw [hlifetime]
    by_cases hname : name = reference.1
    · -- the entity that is referred to is the only one of which more may be known
      rw [if_pos hname, ← hname, hknown]
      exact ⟨_, rfl, Lifetime.growsTo_merge known reference.2⟩
    · rw [if_neg hname]
      exact ⟨known, hknown, .refl known⟩
  · have hstays : (t.refer parents reference).usesDefaultGroup = (t.usesDefaultGroup || _) := rfl
    rw [hstays, hflag, Bool.true_or]

theorem growsTo_foldl_refer (t : ParsedTrace) (parents : Dict String String)
    (refs : List (String × Lifetime)) : t.GrowsTo (refs.foldl (refer · parents) t) := by
  induction refs generalizing t with
  | nil => exact .refl t
  | cons ref refs ih => exact (t.growsTo_refer parents ref).trans (ih _)

/-- **Step lemma**: storing a statement, if there is one, takes nothing back. -/
theorem growsTo_storeAny (t : ParsedTrace) (parents : Dict String String) (s : Option Statement) :
    t.GrowsTo (t.storeAny parents s) := by
  cases s with
  | none => exact .refl t
  | some s =>
    have hnoted := t.growsTo_foldl_refer parents s.references
    refine ⟨?_, hnoted.names, hnoted.lifetimes, hnoted.flag⟩
    rw [storeAny, statements_store]
    exact List.prefix_append _ _

/-- The body of a trace that goes on begins with the body of the trace, which can be laid out too. -/
theorem GrowsTo.exists_body (h : t.GrowsTo u) {l : Layout} {body : String} (hbody : l.body u = .ok body) :
    ∃ shorter, l.body t = .ok shorter ∧ shorter.toList <+: body.toList := by
  obtain ⟨more, hmore⟩ := h.statements
  rw [Layout.body, ← hmore, Layout.bodyFrom_append, Nat.zero_add] at hbody
  rw [Layout.body]
  cases hshorter : l.bodyFrom 0 t.statements with
  | error e => simp [hshorter, Except.bind] at hbody
  | ok shorter =>
    cases hrest : l.bodyFrom t.statements.length more with
    | error e => simp [hshorter, hrest, Except.bind, Except.map] at hbody
    | ok rest =>
      obtain rfl : shorter ++ rest = body := by
        simpa [hshorter, hrest, Except.bind, Except.map] using hbody
      exact ⟨shorter, rfl, by rw [String.toList_append]; exact List.prefix_append _ _⟩

end ParsedTrace

/-- **Run lemma**: reading more lines takes nothing back. -/
theorem TraceReader.growsTo_append (r : TraceReader) (lines more : List String) :
    (r.after lines).parsed.GrowsTo (r.after (lines ++ more)).parsed := by
  induction more using List.reverseRecOn with
  | nil =>
    rw [List.append_nil]
    exact .refl _
  | append_singleton more line ih =>
    rw [← List.append_assoc, parsed_after_concat]
    exact ih.trans (ParsedTrace.growsTo_storeAny _ _ _)

/-- **What comes later rewrites nothing.** Whatever a reader is made of, and whatever lines are read and
follow: the statements, the cast and what is known of it stay and are at most added to, and every body that
is laid out of the whole begins with the one that is laid out of the first lines. -/
theorem growth_after (r : TraceReader) (lines more : List String) :
    let t := (r.after lines).parsed
    let u := (r.after (lines ++ more)).parsed
    t.GrowsTo u ∧ ∀ (l : Layout) (body : String), l.body u = .ok body →
      ∃ shorter, l.body t = .ok shorter ∧ shorter.toList <+: body.toList := by
  intro t u
  have hgrows : t.GrowsTo u := r.growsTo_append lines more
  exact ⟨hgrows, fun l body hbody => hgrows.exists_body hbody⟩

end TraceDiagram
