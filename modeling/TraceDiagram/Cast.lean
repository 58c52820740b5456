import TraceDiagram.Dict

/-! # The cast of a diagram

The entities that the statements of a trace refer to, in the order of their first reference, with what is
known about how long each exists.

* **`Lifetime`** whether an entity is there all the time, is created, or is deleted.
* **`Cast`** the entities; **`Cast.refer`** takes note of a reference.
* **`Cast.runs`** the maximal stretches of entities that are declared with one keyword.
* **`Cast.orphans`** the entities that are deleted without having been created.
-/

namespace TraceDiagram

/-- How long an entity exists, as far as a reference tells. -/
inductive Lifetime where
  /-- All the time, or nothing is known. -/
  | any
  /-- It is created in the trace. -/
  | created
  /-- It is deleted in the trace, and was not created in it before. -/
  | deleted
  deriving DecidableEq, Repr

namespace Lifetime

/-- Whether the entity comes or goes in the trace. -/
def isDynamic : Lifetime → Bool
  | .any => false
  | .created | .deleted => true

/-- What is known after one more reference: what was known first, unless nothing was. -/
def merge : Lifetime → Lifetime → Lifetime
  | .any, hint => hint
  | known, _ => known

@[simp] theorem merge_any (l : Lifetime) : l.merge .any = l := by cases l <;> rfl

@[simp] theorem any_merge (l : Lifetime) : Lifetime.any.merge l = l := rfl

/-- What is known is not replaced. -/
theorem merge_of_ne_any {known : Lifetime} (h : known ≠ .any) (hint : Lifetime) :
    known.merge hint = known := by
  cases known with
  | any => exact absurd rfl h
  | created | deleted => rfl

theorem merge_assoc (a b c : Lifetime) : (a.merge b).merge c = a.merge (b.merge c) := by
  cases a <;> rfl

end Lifetime

/-- Entities that are declared together, with one keyword. -/
structure Run where
  /-- Whether they come or go in the trace. -/
  dynamic : Bool
  /-- Their names. -/
  names : List String
  deriving DecidableEq, Repr

/-- The entities of a diagram, in the order of their first reference. -/
structure Cast where
  /-- What is known about each. -/
  members : Dict String Lifetime := ∅
  deriving DecidableEq, Repr

namespace Cast

/-- Takes note of a reference to an entity. -/
def refer (c : Cast) (name : String) (hint : Lifetime) : Cast where
  members := c.members.insert name (((c.members.get? name).getD .any).merge hint)

/-- The names, in order. -/
def names (c : Cast) : List String := c.members.keys

/-- What is known about an entity. -/
def lifetime? (c : Cast) (name : String) : Option Lifetime := c.members.get? name

/-- How many entities there are. -/
def size (c : Cast) : Nat := c.members.size

/-- Whether there is no entity. -/
def isEmpty (c : Cast) : Bool := c.members.isEmpty

/-- A name that is known keeps its place, and a new one goes to the end. -/
theorem names_refer (c : Cast) (name : String) (hint : Lifetime) :
    (c.refer name hint).names = if name ∈ c.names then c.names else c.names ++ [name] :=
  Dict.keys_insert _ _ _

/-- A reference bears on the entity that it names alone. -/
theorem lifetime?_refer (c : Cast) (name other : String) (hint : Lifetime) :
    (c.refer name hint).lifetime? other =
      if other = name then some (((c.lifetime? name).getD .any).merge hint) else c.lifetime? other :=
  Dict.get?_insert _ _ _ _

/-- A reference that tells nothing new changes nothing. -/
theorem refer_of_known {c : Cast} {name : String} {hint known : Lifetime}
    (h : c.lifetime? name = some known) (hmerge : known.merge hint = known) : c.refer name hint = c := by
  have hget : c.members.get? name = some known := h
  rw [refer, hget, Option.getD_some, hmerge, Dict.insert_of_get? hget]

/-- Puts an entity in front of some runs. -/
def addToRuns (name : String) (dynamic : Bool) : List Run → List Run
  | [] => [⟨dynamic, [name]⟩]
  | r :: rest =>
    if r.dynamic = dynamic then ⟨dynamic, name :: r.names⟩ :: rest
    else ⟨dynamic, [name]⟩ :: r :: rest

/-- The runs of some entities. -/
def runsOf (members : List (String × Lifetime)) : List Run :=
  members.foldr (fun m runs => addToRuns m.1 m.2.isDynamic runs) []

/-- The maximal stretches of entities that are declared with one keyword. -/
def runs (c : Cast) : List Run := runsOf c.members.entries

/-- The entities that are deleted without having been created before, in order. -/
def orphans (c : Cast) : List String :=
  (c.members.entries.filter fun m => m.2 = .deleted).map Prod.fst

end Cast

end TraceDiagram
