import Mathlib.Data.List.SplitBy
import TraceDiagram.Proofs.Headers

/-! # Runs as a segmentation

The runs of a cast cut it into the longest stretches of entities that are declared with one keyword.

* **`Cast.IsSegmentation`** what it takes for some runs to be such a cut.
* **`Cast.isChain_runs`** neighbouring runs of a cast have different keywords: by adding the entities one by one.
* **`Run.eq_of_declarations_eq`** runs of which no two can be put together are told by what they declare.
* **`Cast.isSegmentation_iff`** so the runs of a cast are the only cut of it. -/

namespace TraceDiagram

/-! ## Runs of which no two can be put together -/

namespace Run

/-- Two runs are declared with different keywords. -/
def Differs (run next : Run) : Prop := run.dynamic ≠ next.dynamic

/-- A run with an entity tells its keyword and its names by what it declares. -/
theorem ext_declarations {run other : Run} (hne : run.names ≠ [])
    (h : run.declarations = other.declarations) : run = other := by
  obtain ⟨dynamic, names⟩ := run
  obtain ⟨dynamic', names'⟩ := other
  obtain rfl : names = names' := by simpa only [map_fst_declarations] using congrArg (List.map Prod.fst) h
  obtain ⟨name, rest, rfl⟩ := List.exists_cons_of_ne_nil hne
  have hfirst : (name, dynamic) = (name, dynamic') := (List.cons.inj h).1
  rw [(Prod.mk.inj hfirst).2]

/-- All entities of a run are declared with one keyword. -/
theorem isChain_declarations (run : Run) :
    run.declarations.IsChain fun d next => (d.2 == next.2) = true := by
  refine List.Pairwise.isChain (List.pairwise_of_forall_mem_list fun d hd next hnext => ?_)
  obtain ⟨name, -, rfl⟩ := List.mem_map.1 hd
  obtain ⟨other, -, rfl⟩ := List.mem_map.1 hnext
  exact beq_self_eq_true run.dynamic

/-- Where one run ends and another begins, the keyword changes. -/
theorem Differs.border {run next : Run} (h : run.Differs next) (hrun : run.declarations ≠ [])
    (hnext : next.declarations ≠ []) :
    ((run.declarations.getLast hrun).2 == (next.declarations.head hnext).2) = false := by
  have hlast : (run.declarations.getLast hrun).2 = run.dynamic := by simp [declarations]
  have hhead : (next.declarations.head hnext).2 = next.dynamic := by simp [declarations]
  rw [hlast, hhead]
  exact beq_eq_false_iff_ne.2 h

/-- Runs are cut apart where the keyword changes. -/
theorem splitBy_declarations {runs : List Run} (hne : ∀ run ∈ runs, run.names ≠ [])
    (hdiffers : runs.IsChain Differs) :
    (runs.flatMap declarations).splitBy (fun d next => d.2 == next.2) = runs.map declarations := by
  have hfull : ∀ run ∈ runs, run.declarations ≠ [] := fun run hrun => by
    simpa [declarations] using hne run hrun
  rw [List.flatMap_def]
  refine List.splitBy_flatten ?_ ?_ ?_
  · rw [List.mem_map]
    rintro ⟨run, hrun, hnil⟩
    exact hfull run hrun hnil
  · exact List.forall_mem_map.2 fun run _ => run.isChain_declarations
  · rw [List.isChain_map]
    refine hdiffers.imp_of_mem_imp fun run next hrun hnext h => ?_
    exact ⟨hfull run hrun, hfull next hnext, h.border _ _⟩

/-- **Runs of which no two can be put together are told by what they declare.** -/
theorem eq_of_declarations_eq {runs others : List Run} (hne : ∀ run ∈ runs, run.names ≠ [])
    (hdiffers : runs.IsChain Differs) (hne' : ∀ run ∈ others, run.names ≠ [])
    (hdiffers' : others.IsChain Differs)
    (h : runs.flatMap declarations = others.flatMap declarations) : runs = others := by
  have hcut : runs.map declarations = others.map declarations := by
    rw [← splitBy_declarations hne hdiffers, h, splitBy_declarations hne' hdiffers']
  refine List.ext_getElem (by simpa using congrArg List.length hcut) fun i hi hi' => ?_
  refine ext_declarations (hne _ (List.getElem_mem hi)) ?_
  simpa [hi, hi'] using congrArg (·[i]?) hcut

end Run

namespace Cast

/-! ## The runs of a cast -/

/-- **Step lemma**: an entity that is put in front of some runs joins the first of them, or begins another run
because its keyword is the other one. -/
theorem isChain_addToRuns {runs : List Run} (h : runs.IsChain Run.Differs) (name : String) (dynamic : Bool) :
    (addToRuns name dynamic runs).IsChain Run.Differs := by
  cases runs with
  | nil => exact .singleton _
  | cons run rest =>
    rw [addToRuns]
    split
    · next hsame =>
      -- a run with one name more has the neighbours that it had
      rw [List.isChain_cons] at h ⊢
      refine ⟨fun next hnext => ?_, h.2⟩
      exact hsame ▸ h.1 next hnext
    · next hother => exact .cons_cons (Ne.symm hother) h

/-- **Run lemma**: neighbouring runs of a cast are declared with different keywords. -/
theorem isChain_runs (c : Cast) : c.runs.IsChain Run.Differs := by
  rw [runs, runsOf]
  induction c.members.entries with
  | nil => exact .nil
  | cons member members ih => exact isChain_addToRuns ih member.1 member.2.isDynamic

/-! ## Segmentations -/

/-- Some runs cut a cast into the longest stretches of entities that are declared with one keyword. -/
structure IsSegmentation (c : Cast) (runs : List Run) : Prop where
  /-- Together they have the names of the cast, in order. -/
  names : runs.flatMap Run.names = c.names
  /-- None is empty. -/
  ne_nil : ∀ run ∈ runs, run.names ≠ []
  /-- Every entity of a run comes or goes in the trace, or none does, as the run says. -/
  keyword : ∀ run ∈ runs, ∀ name ∈ run.names,
    (c.lifetime? name).map Lifetime.isDynamic = some run.dynamic
  /-- Neighbours say different things. -/
  differ : runs.IsChain fun run next => run.dynamic ≠ next.dynamic

variable {c : Cast} {runs : List Run}

/-- The keyword of each entity is the one that its lifetime asks for. -/
theorem mem_classes_iff {name : String} {dynamic : Bool} :
    (name, dynamic) ∈ c.classes ↔ (c.lifetime? name).map Lifetime.isDynamic = some dynamic := by
  rw [classes, List.mem_map, Option.map_eq_some_iff]
  constructor
  · rintro ⟨⟨_, lifetime⟩, hmem, ⟨⟩⟩
    exact ⟨lifetime, Dict.get?_of_mem_entries hmem, rfl⟩
  · rintro ⟨lifetime, hlifetime, rfl⟩
    exact ⟨(name, lifetime), Dict.mem_entries_of_get? hlifetime, rfl⟩

/-- The classes list the names, each with one keyword. -/
theorem classes_eq_map_names (c : Cast) :
    c.classes = c.names.map fun name => (name, ((c.lifetime? name).getD .any).isDynamic) := by
  rw [names, Dict.keys, List.map_map]
  refine List.map_congr_left fun member hmember => ?_
  have hlifetime : c.lifetime? member.1 = some member.2 := Dict.get?_of_mem_entries hmember
  rw [Function.comp_apply, hlifetime, Option.getD_some]

/-- A segmentation declares each entity with its keyword. -/
theorem IsSegmentation.flatMap_declarations (h : c.IsSegmentation runs) :
    runs.flatMap Run.declarations = c.classes := by
  have hrun : ∀ run ∈ runs, run.declarations =
      run.names.map fun name => (name, ((c.lifetime? name).getD .any).isDynamic) := by
    refine fun run hrun => List.map_congr_left fun name hname => ?_
    obtain ⟨lifetime, hlifetime, hkeyword⟩ := Option.map_eq_some_iff.1 (h.keyword run hrun name hname)
    rw [hlifetime, Option.getD_some, hkeyword]
  rw [List.flatMap_congr hrun, ← List.map_flatMap, h.names, classes_eq_map_names]

/-- **The runs of a cast are its only segmentation.** -/
theorem isSegmentation_iff (c : Cast) (runs : List Run) : c.IsSegmentation runs ↔ runs = c.runs := by
  constructor
  · intro h
    refine Run.eq_of_declarations_eq h.ne_nil h.differ c.ne_nil_of_mem_runs c.isChain_runs ?_
    rw [h.flatMap_declarations, c.flatMap_declarations_runs]
  · rintro rfl
    refine ⟨c.flatMap_names_runs, c.ne_nil_of_mem_runs, fun run hrun name hname => ?_, c.isChain_runs⟩
    rw [← mem_classes_iff, ← c.flatMap_declarations_runs, List.mem_flatMap]
    exact ⟨run, hrun, List.mem_map_of_mem hname⟩

/-- What is created and what is deleted are in one run, and what is there all the time stands before and
behind it. -/
example : ((((({} : Cast).refer "Client" .any).refer "Session" .created).refer "Cache" .deleted).refer
    "Peer" .any).runs = [⟨false, ["Client"]⟩, ⟨true, ["Session", "Cache"]⟩, ⟨false, ["Peer"]⟩] := by decide

end Cast

end TraceDiagram
