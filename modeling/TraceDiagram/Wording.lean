import TraceDiagram.Config
import TraceDiagram.Statement
import TraceDiagram.Template.Render
import TraceDiagram.Text.Split

/-! # The wording of diagrams

* **`Wording`** the templates of a configuration, read.
* **`Wording.params`**, **`Wording.bookmark`**, **`Wording.remark`**, **`Wording.statement`** the texts that
  they give.
-/

namespace TraceDiagram

open Template (RenderError)

/-- The templates of a configuration, read. -/
structure Wording where
  /-- The templates. -/
  library : Library

namespace Wording

/-- Reads the templates of a configuration. -/
def ofTemplates (t : Config.Templates) : Except LibraryError Wording := do
  let library ← Library.ofList t.toList
  return { library := library }

/-- The text of a template for variables that are texts. -/
def renderTexts (w : Wording) (name : String) (vars : Dict String String) :
    Except RenderError String :=
  w.library.render name (Dict.ofList (vars.entries.map fun p => (p.1, Json.text p.2)))

/-- The text of one parameter. -/
def param (w : Wording) (p : Param) : Except RenderError String :=
  w.renderTexts "param" (Dict.ofList [("attribute", p.name), ("value", p.value)])

/-- The texts of some parameters. -/
def paramTexts (w : Wording) : List Param → Except RenderError (List String)
  | [] => .ok []
  | p :: rest => do
    let text ← w.param p
    let more ← w.paramTexts rest
    return text :: more

/-- The text of a list of parameters; an empty list has none. -/
def params (w : Wording) (ps : List Param) : Except RenderError String := do
  let texts ← w.paramTexts ps
  return if ps.isEmpty then "" else "(" ++ Text.joinStrings "," texts ++ ")"

/-- The heading in front of a statement with a bookmark. -/
def bookmark (w : Wording) (value : String) : Except RenderError String :=
  w.renderTexts "bookmark" (Dict.ofList [("bookmark", value)])

/-- The remark below a statement. -/
def remark (w : Wording) (r : Remark) : Except RenderError String :=
  w.renderTexts "remark"
    (Dict.ofList [("time", r.time), ("file", r.file), ("generator", r.generator)])

/-- The variables for the text of a statement: its attributes, and the text of its parameters. -/
def bindings (w : Wording) (s : Statement) : Except RenderError (Dict String String) :=
  match s.params with
  | none => .ok s.attributes
  | some ps => do
    let text ← w.params ps
    return s.attributes.insert "params" text

/-- The text of a statement. -/
def statement (w : Wording) (s : Statement) : Except RenderError String := do
  let vars ← w.bindings s
  w.renderTexts s.kind.templateName vars

end Wording

end TraceDiagram
