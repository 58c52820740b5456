import TraceDiagram.Dict
import TraceDiagram.Toml.Value

/-! # Tables under construction

A file fills its tables line by line. Which lines may add to a table depends on how the table came about.

* **`TableOrigin`** how a table came about, **`Branch`** a value, a table or a list of tables under construction.
* **`atTable`** changes the table at a path and makes the tables that are missing on the way.
* **`define`** gives a key a value, **`openTable`** and **`openItem`** begin a table with a heading.
-/

namespace TraceDiagram.Toml

/-- How a table came about. -/
inductive TableOrigin where
  /-- A heading goes through it. -/
  | implied
  /-- A key with dots goes through it. -/
  | dotted
  /-- It has a heading of its own, or is the whole file. -/
  | headed
  deriving DecidableEq, Repr

/-- What stands under a key of a table under construction. -/
inductive Branch where
  /-- A value that is complete. -/
  | leaf (value : Toml)
  /-- A table. -/
  | table (origin : TableOrigin) (branches : List (String × Branch))
  /-- A list of tables, of which only the last may still grow. -/
  | tables (earlier : List Toml) (last : List (String × Branch))

/-- What stands under the keys of a table under construction. -/
abbrev Branches := List (String × Branch)

mutual

/-- What a branch is when nothing is added any more. -/
def Branch.toToml : Branch → Toml
  | .leaf v => v
  | .table _ branches => .table (pairsOf branches)
  | .tables earlier last => .list (earlier ++ [.table (pairsOf last)])

/-- What the keys of a table have when nothing is added any more. -/
def pairsOf : List (String × Branch) → List (String × Toml)
  | [] => []
  | p :: rest => (p.1, p.2.toToml) :: pairsOf rest

end

/-- Changes the table at a path. A list of tables stands for its last one. Tables that are missing come about
as `made`, and a path with dots does not go through a table that has a heading. -/
def atTable (made : TableOrigin) (change : TableOrigin → Branches → Option Branches) :
    List String → TableOrigin → Branches → Option Branches
  | [], origin, branches => change origin branches
  | key :: path, _, branches =>
    match branches.lookup key with
    | none => do
      let inner ← atTable made change path made []
      return assignPair key (.table made inner) branches
    | some (.leaf _) => none
    | some (.table origin inner) =>
      if made = .dotted ∧ origin = .headed then none
      else do
        let inner ← atTable made change path origin inner
        return assignPair key (.table origin inner) branches
    | some (.tables earlier last) => do
      let last ← atTable made change path .headed last
      return assignPair key (.tables earlier last) branches

/-- Gives the key behind a path with dots a value. The key has to be new, and only a key with dots adds to
tables that came about by keys with dots. -/
def define (path : List String) (key : String) (value : Toml) :
    TableOrigin → Branches → Option Branches :=
  atTable .dotted (fun origin branches =>
    if decide (origin = .dotted) = path.isEmpty then none
    else match branches.lookup key with
      | some _ => none
      | none => some (branches ++ [(key, .leaf value)])) path

/-- Begins the table with the heading of a path and a key. It has to be new, or only implied so far. -/
def openTable (path : List String) (key : String) (branches : Branches) : Option Branches :=
  atTable .implied (fun _ branches =>
    match branches.lookup key with
    | none => some (branches ++ [(key, .table .headed [])])
    | some (.table .implied inner) => some (assignPair key (.table .headed inner) branches)
    | some _ => none) path .headed branches

/-- Begins another table in the list with the heading of a path and a key. -/
def openItem (path : List String) (key : String) (branches : Branches) : Option Branches :=
  atTable .implied (fun _ branches =>
    match branches.lookup key with
    | none => some (branches ++ [(key, .tables [] [])])
    | some (.tables earlier last) =>
      some (assignPair key (.tables (earlier ++ [.table (pairsOf last)]) []) branches)
    | some _ => none) path .headed branches

/-- The table that settings in one pair of braces make. -/
def inlineTable (settings : List (List String × String × Toml)) : Option Toml := do
  let branches ← settings.foldlM (fun branches (path, key, value) =>
    define path key value .headed branches) []
  return .table (pairsOf branches)

end TraceDiagram.Toml
