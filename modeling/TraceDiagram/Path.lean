import TraceDiagram.Text.Split

/-! # Paths

A path is a text: names with slashes in between. A slash in front makes it absolute; empty pieces and single
points between slashes say nothing.

* **`Path.parent?`** the path of the directory that a path leads into, **`Path.fileName?`** the name there,
  **`Path.stem`** that name without its extension.
* **`Path.join`** a path seen from another one.
-/

namespace TraceDiagram.Path

open Text

/-- The pieces between the slashes. -/
def pieces (p : String) : List String := (split ['/'] p.toList).map String.ofList

/-- The path with the given pieces between its slashes. -/
def ofPieces (ps : List String) : String := joinStrings "/" ps

/-- Whether the path begins at the root. -/
def isAbsolute (p : String) : Bool := p.toList.head? = some '/'

/-- Whether a piece says nothing. -/
def isIdle (piece : String) : Bool := piece.isEmpty || piece = "."

/-- The pieces without those at the end that say nothing. -/
def dropIdleEnd (ps : List String) : List String := (ps.reverse.dropWhile isIdle).reverse

/-- The first piece, which tells where the path begins, and the pieces behind it. -/
def parts (p : String) : String × List String :=
  match pieces p with
  | [] => ("", [])
  | first :: rest => (first, dropIdleEnd rest)

/-- The path without its last name. The root and the empty path have none; a single name leaves the empty
path. -/
def parent? (p : String) : Option String :=
  let (first, rest) := parts p
  if rest.isEmpty then (if first.isEmpty then none else some "")
  else
    let outer := dropIdleEnd rest.dropLast
    some (if outer.isEmpty && first.isEmpty then "/" else ofPieces (first :: outer))

/-- The last name, if it is the name of a thing and not a step. -/
def fileName? (p : String) : Option String :=
  let (first, rest) := parts p
  let last := rest.getLastD first
  if isIdle last || last = ".." then none else some last

/-- A name without its extension, which is what stands behind the last point. A point at the beginning begins
no extension. -/
def stem (name : String) : String :=
  match name.toList.reverse.dropWhile (· ≠ '.') with
  | [] => name
  | _ :: before => if before.isEmpty then name else String.ofList before.reverse

/-- The path `q` seen from `p`. -/
def join (p q : String) : String :=
  if isAbsolute q || p.isEmpty then q
  else if p.toList.getLast? = some '/' then p ++ q
  else p ++ "/" ++ q

end TraceDiagram.Path
