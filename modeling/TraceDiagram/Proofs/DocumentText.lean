import TraceDiagram.Document

/-! # The text of a document

How a document is written, sign by sign, from the lines that declare its entities, the entities that it creates in
its header, and its body.

* **`DeclarationLine`** a line that declares entities; **`DeclarationLine.text`** how it is written.
* **`documentText`** how a document is written.
* **`Layout.runLine_eq_text`** the line for a run is written in this way, and so is the whole:
  **`Layout.document_eq`**. -/

namespace TraceDiagram

/-! ## Texts -/

/-- A line that declares entities. -/
structure DeclarationLine where
  /-- The word that it begins with. -/
  keyword : String
  /-- The names of the entities, in order. -/
  names : List String
  deriving DecidableEq, Repr

/-- An entity in a declaration: its name alone or, if there is a table of groups, its name and its group, each
between quotes. An entity that the table does not have is in the default group. -/
def entryText (parents : Dict String String) (defaultGroup name : String) : String :=
  if parents.isEmpty then name
  else "\"" ++ name ++ "\" in \"" ++ (parents.get? name).getD defaultGroup ++ "\""

/-- The line as it is written: the word, and behind a colon the entities with commas between them. -/
def DeclarationLine.text (parents : Dict String String) (defaultGroup : String) (d : DeclarationLine) : String :=
  d.keyword ++ ": " ++ ", ".intercalate (d.names.map (entryText parents defaultGroup)) ++ "\n"

/-- The lines that declare the groups of a table, if there is one, and the default group, if it is used. -/
def groupsText (parents : Dict String String) (defaultGroup : String) (usesDefaultGroup : Bool) : String :=
  if parents.isEmpty then ""
  else "component: " ++ ", ".intercalate (parents.values.eraseDups.map fun group => "\"" ++ group ++ "\"") ++ "\n" ++
    if usesDefaultGroup then "component: \"" ++ defaultGroup ++ "\"\n" else ""

/-- A document as it is written: what it includes, its groups, the lines that declare its entities, an empty line and
the title of the diagram, a line for each entity that the header creates, the body and the closing brace. -/
def documentText (format : Config.Format) (parents : Dict String String) (usesDefaultGroup : Bool)
    (declarations : List DeclarationLine) (created : List String) (body : String) : String :=
  format.theme.elim "" (fun theme => "#include <" ++ theme ++ ".FDL>\n") ++ "#include <stdinc.FDL>\n\n" ++
    groupsText parents format.defaultGroup usesDefaultGroup ++
    String.join (declarations.map (DeclarationLine.text parents format.defaultGroup)) ++
    "\n" ++ format.theme.elim "" (fun _ => "\x7bMyTheme\x7d ") ++
    "feature \"" ++ format.featureTitle ++ "\" \x7b\n" ++
    String.join (created.map fun name => format.indent ++ "create " ++ name ++ "\n") ++
    body ++ "\x7d\n"

/-- The line for a run of entities. -/
def Run.line (r : Run) : DeclarationLine where
  keyword := if r.dynamic then "dynamic" else "eternal"
  names := r.names

/-- One of two words stands in front of it. -/
theorem Run.keyword_line_cases (r : Run) : r.line.keyword = "eternal" ∨ r.line.keyword = "dynamic" := by
  unfold line
  cases r.dynamic
  · exact .inl rfl
  · exact .inr rfl

theorem Run.keyword_line_eq_dynamic (r : Run) : r.line.keyword = "dynamic" ↔ r.dynamic = true := by
  unfold line
  cases r.dynamic <;> simp

theorem Run.keyword_line_eq_eternal (r : Run) : r.line.keyword = "eternal" ↔ r.dynamic = false := by
  unfold line
  cases r.dynamic <;> simp

/-! ## Layouts -/

namespace Layout

theorem declared_eq_entryText (l : Layout) (name : String) :
    l.declared name = entryText l.parents l.format.defaultGroup name := by
  unfold declared entryText groupOf
  by_cases h : l.parents.isEmpty
  · rw [if_pos h, if_pos h]
  · rw [if_neg h, if_neg h, ← String.toList_inj]
    simp [quote]

/-- The line that declares a run. -/
theorem runLine_eq_text (l : Layout) (r : Run) :
    l.runLine r = r.line.text l.parents l.format.defaultGroup := by
  have hentries : l.declared = entryText l.parents l.format.defaultGroup :=
    funext l.declared_eq_entryText
  rw [runLine, Text.joinStrings_eq_intercalate, hentries]
  rfl

theorem componentLines_eq_text (l : Layout) (usesDefaultGroup : Bool) :
    l.componentLines usesDefaultGroup = groupsText l.parents l.format.defaultGroup usesDefaultGroup := by
  have hquote : quote = fun group => "\"" ++ group ++ "\"" := rfl
  have hdefault : "component: " ++ quote l.format.defaultGroup ++ "\n" =
      "component: \"" ++ l.format.defaultGroup ++ "\"\n" := by
    rw [← String.toList_inj]
    simp [quote]
  rw [componentLines, groupsText, groups, Text.joinStrings_eq_intercalate, hdefault, hquote]

theorem includes_eq_text (l : Layout) : l.includes =
    l.format.theme.elim "" (fun theme => "#include <" ++ theme ++ ".FDL>\n") ++ "#include <stdinc.FDL>\n\n" := by
  unfold includes
  cases l.format.theme <;> rfl

theorem opening_eq_text (l : Layout) : l.opening =
    "\n" ++ l.format.theme.elim "" (fun _ => "\x7bMyTheme\x7d ") ++ "feature \"" ++ l.format.featureTitle ++
      "\" \x7b\n" := by
  rw [← String.toList_inj]
  unfold opening quote
  cases l.format.theme <;> simp

/-- A header, a body and the footer are written like this. The lines for entities are those of the runs of the cast,
and the entities that the header creates are the orphans. -/
theorem header_append_footer (l : Layout) (t : ParsedTrace) (body : String) :
    l.header t ++ body ++ footer = documentText l.format l.parents t.usesDefaultGroup (t.cast.runs.map Run.line)
      t.cast.orphans body := by
  have hlines : t.cast.runs.map l.runLine =
      (t.cast.runs.map Run.line).map (DeclarationLine.text l.parents l.format.defaultGroup) := by
    rw [List.map_map]
    exact List.map_congr_left fun r _ => l.runLine_eq_text r
  have horphans : l.orphanLine = fun name => l.format.indent ++ "create " ++ name ++ "\n" := rfl
  simp only [documentText, header, footer, includes_eq_text, componentLines_eq_text, hlines, opening_eq_text,
    horphans, String.append_assoc]

/-- **Every document is written like this.** -/
theorem document_eq (l : Layout) (t : ParsedTrace) : l.document t = (l.body t).map
    (documentText l.format l.parents t.usesDefaultGroup (t.cast.runs.map Run.line) t.cast.orphans) := by
  rw [document]
  cases l.body t with
  | error e => rfl
  | ok body => exact congrArg Except.ok (l.header_append_footer t body)

end Layout

end TraceDiagram
