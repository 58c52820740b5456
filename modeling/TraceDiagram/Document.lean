import TraceDiagram.Failure
import TraceDiagram.Trace
import TraceDiagram.Wording

/-! # Documents

The description of a sequence diagram: a header that declares the groups and the entities and opens the
diagram, a body with one piece for each statement, and a footer.

* **`Layout`** how a document is laid out.
* **`Layout.header`**, **`Layout.body`**, **`Layout.footer`** its parts; **`Layout.document`** is the whole.
-/

namespace TraceDiagram

open Template (RenderError)

/-- How a document is laid out. -/
structure Layout where
  /-- The templates for its texts. -/
  wording : Wording
  /-- Its form. -/
  format : Config.Format
  /-- The group of each entity. -/
  parents : Dict String String

namespace Layout

/-- A text between double quotes. -/
def quote (s : String) : String := "\"" ++ s ++ "\""

/-! ## Header -/

/-- The lines that include other documents, and an empty line. -/
def includes (l : Layout) : String :=
  (match l.format.theme with
    | some theme => "#include <" ++ theme ++ ".FDL>\n"
    | none => "") ++ "#include <stdinc.FDL>\n\n"

/-- The groups of entities, each once, in the order of the table. -/
def groups (l : Layout) : List String := l.parents.values.eraseDups

/-- The group of an entity. -/
def groupOf (l : Layout) (entity : String) : String :=
  (l.parents.get? entity).getD l.format.defaultGroup

/-- The lines that declare the groups: none if there is no table, and one for the default group if it is
used. -/
def componentLines (l : Layout) (usesDefaultGroup : Bool) : String :=
  if l.parents.isEmpty then ""
  else
    "component: " ++ Text.joinStrings ", " (l.groups.map quote) ++ "\n" ++
      if usesDefaultGroup then "component: " ++ quote l.format.defaultGroup ++ "\n" else ""

/-- An entity as it is declared: with its group, if there is a table. -/
def declared (l : Layout) (entity : String) : String :=
  if l.parents.isEmpty then entity else quote entity ++ " in " ++ quote (l.groupOf entity)

/-- The keyword for a run of entities. -/
def keyword (dynamic : Bool) : String := if dynamic then "dynamic" else "eternal"

/-- The line that declares a run of entities. -/
def runLine (l : Layout) (r : Run) : String :=
  keyword r.dynamic ++ ": " ++ Text.joinStrings ", " (r.names.map l.declared) ++ "\n"

/-- The lines that open the diagram: an empty one and the one with the title. -/
def opening (l : Layout) : String :=
  (match l.format.theme with
    | some _ => "\n\x7bMyTheme\x7d feature "
    | none => "\nfeature ") ++ quote l.format.featureTitle ++ " \x7b\n"

/-- The line that creates an entity which is deleted without having been created. -/
def orphanLine (l : Layout) (entity : String) : String :=
  l.format.indent ++ "create " ++ entity ++ "\n"

/-- The header of a document. -/
def header (l : Layout) (t : ParsedTrace) : String :=
  l.includes ++ l.componentLines t.usesDefaultGroup ++ String.join (t.cast.runs.map l.runLine)
    ++ l.opening ++ String.join (t.cast.orphans.map l.orphanLine)

/-! ## Body -/

/-- A text as an indented line. -/
def indented (l : Layout) (text : String) : String := l.format.indent ++ text ++ "\n"

/-- The heading of a statement, if its bookmark is among those of the format. -/
def heading (l : Layout) (s : Statement) : Except RenderError String :=
  match s.bookmark? with
  | none => .ok ""
  | some value =>
    if l.format.bookmarks.contains value then l.indented <$> l.wording.bookmark value else .ok ""

/-- The remark below a statement, if it has one. -/
def remarkLine (l : Layout) (s : Statement) : Except RenderError String :=
  match s.remark with
  | none => .ok ""
  | some r => l.indented <$> l.wording.remark r

/-- The piece of the body for one statement: its heading, its text, its remark and an empty line. -/
def block (l : Layout) (s : Statement) : Except RenderError String := do
  let heading ← l.heading s
  let text ← l.wording.statement s
  let remark ← l.remarkLine s
  return heading ++ l.indented text ++ remark ++ "\n"

/-- The pieces for some statements, of which the first has the given place among all. -/
def bodyFrom (l : Layout) : Nat → List Statement → Except Failure String
  | _, [] => .ok ""
  | index, s :: rest =>
    match l.block s with
    | .error e => .error (.statement index s.kind.templateName e.message)
    | .ok text =>
      match l.bodyFrom (index + 1) rest with
      | .error e => .error e
      | .ok more => .ok (text ++ more)

/-- The body of a document. -/
def body (l : Layout) (t : ParsedTrace) : Except Failure String := l.bodyFrom 0 t.statements

/-- The footer of a document. -/
def footer : String := "\x7d\n"

/-- The document of a trace. -/
def document (l : Layout) (t : ParsedTrace) : Except Failure String :=
  match l.body t with
  | .error e => .error e
  | .ok body => .ok (l.header t ++ body ++ footer)

end Layout

end TraceDiagram
