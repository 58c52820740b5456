import TraceDiagram.Dict
import TraceDiagram.Template.Fault
import TraceDiagram.Template.NodeReader
import TraceDiagram.Template.Trim

/-! # Libraries of templates

* **`Template`** a template that has been read, with what other templates may use of it.
* **`Library`** templates by name, in order. Every template that another inherits from is there.
* **`Library.ofList`** reads some templates; **`LibraryError`** says why it may fail.
* **`Library.namespaces`** the macros that a template can call.
-/

namespace TraceDiagram

open Template (Node Expr)

/-- A macro: its parameters with their default values, and its body. -/
structure MacroDef where
  /-- The parameters. -/
  params : List (String × Option Template.Expr)
  /-- The body. -/
  body : List Template.Node

/-- A template that has been read. -/
structure Template where
  /-- Its pieces. -/
  nodes : List Template.Node
  /-- The template that it inherits from. -/
  parent : Option String
  /-- Its blocks and the blocks directly in them. -/
  blocks : List (String × List Template.Node)
  /-- Its macros. -/
  macros : List (String × MacroDef)
  /-- The templates whose macros it uses, each with the namespace for them. -/
  macroSources : List (String × String)

/-- Why templates are refused. -/
inductive LibraryError where
  /-- A template is not written as templates are. -/
  | unreadable (name : String)
  /-- A template inherits from one that is not there. -/
  | missingParent (name parent : String)
  /-- A template inherits from itself, by the given steps. -/
  | circular (name : String) (chain : List String)
  /-- A template uses the macros of one that is not there. -/
  | missingMacros (name source : String)
  deriving DecidableEq, Repr

/-- The text of the refusal. -/
def LibraryError.message : LibraryError → String
  | .unreadable name => "Failed to parse '" ++ name ++ "'"
  | .missingParent name parent =>
    "Template '" ++ name ++ "' is inheriting from '" ++ parent
      ++ "', which doesn't exist or isn't loaded."
  | .circular name chain =>
    "Circular extend detected for template '" ++ name ++ "'. Inheritance chain: `["
      ++ ", ".intercalate (chain.map fun n => String.ofList (Json.quoted n)) ++ "]`"
  | .missingMacros name source =>
    "Template `" ++ name ++ "` loads macros from `" ++ source ++ "` which isn't present in Tera"

namespace Template

/-- The blocks among some pieces, and the blocks among the pieces of those. -/
def blocksOf : List Node → List (String × List Node)
  | [] => []
  | .block _ name body _ :: rest => (name, body) :: blocksOf body ++ blocksOf rest
  | _ :: rest => blocksOf rest

/-- The template of some pieces, unless two blocks or two macros have one name. -/
def ofNodes? (nodes : List Node) : Option Template :=
  let blocks := blocksOf nodes
  let macros := nodes.filterMap fun
    | .macroDef _ name params body _ => some (name, (⟨params, body⟩ : MacroDef))
    | _ => none
  if (blocks.map Prod.fst).Nodup ∧ (macros.map Prod.fst).Nodup then
    some {
      nodes := nodes
      parent := nodes.findSome? fun
        | .inherit _ name => some name
        | _ => none
      blocks := blocks
      macros := macros
      macroSources := nodes.filterMap fun
        | .useMacros _ source space => some (source, space)
        | _ => none }
  else none

/-- Reads a template. -/
def read? (text : String) : Option Template :=
  (readNodes text.toList).bind fun nodes => ofNodes? (trimNodes nodes)

end Template

/-- Templates by name, in order. -/
structure Library where
  /-- The templates. -/
  templates : Dict String Template

namespace Library

/-- The template with a given name. -/
def find? (l : Library) (name : String) : Option Template := l.templates.get? name

/-- The templates that one inherits from, nearest first, in at most `fuel` steps. -/
def ancestorsUpTo (l : Library) : Nat → String → List String
  | 0, _ => []
  | fuel + 1, name =>
    match (l.find? name).bind fun t => t.parent with
    | none => []
    | some parent => parent :: l.ancestorsUpTo fuel parent

/-- The templates that one inherits from, nearest first. -/
def ancestors (l : Library) (name : String) : List String :=
  l.ancestorsUpTo (l.templates.size + 1) name

/-- Refuses a template from which inheritance leads nowhere or back. -/
def checkInheritance (l : Library) (name : String) : Except LibraryError Unit :=
  let chain := l.ancestors name
  let again := chain.findIdx? (· = name)
  match again with
  | some i => .error (.circular name (chain.take (i + 1)))
  | none =>
    if l.templates.size < chain.length then .error (.circular name chain)
    else match chain.find? fun ancestor => (l.find? ancestor).isNone with
      | none => .ok ()
      | some missing =>
        let heir := (((name :: chain).takeWhile (· ≠ missing)).getLast?).getD name
        .error (.missingParent heir missing)

/-- Refuses a template that uses macros of a template that is not there. -/
def checkMacros (l : Library) (name : String) (t : Template) : Except LibraryError Unit :=
  match t.macroSources.find? fun source => (l.find? source.1).isNone with
  | none => .ok ()
  | some source => .error (.missingMacros name source.1)

/-- Reads some templates, given by name and text. -/
def readAll : List (String × String) → Except LibraryError (List (String × Template))
  | [] => .ok []
  | (name, text) :: rest =>
    match Template.read? text with
    | none => .error (.unreadable name)
    | some t => do
      let more ← readAll rest
      return (name, t) :: more

/-- The library of some templates, given by name and text. -/
def ofList (texts : List (String × String)) : Except LibraryError Library := do
  let read ← readAll texts
  let l : Library := { templates := Dict.ofList read }
  for name in l.templates.keys do
    l.checkInheritance name
  for (name, t) in l.templates.entries do
    l.checkMacros name t
  return l

/-! ## Macros -/

/-- The macros under a namespace, with the template that they come from. -/
abbrev Namespace := String × String × List (String × MacroDef)

/-- Namespaces with others added, unless they are there. -/
def addMissing (spaces more : List Namespace) : List Namespace :=
  more.foldl (fun acc s => if (acc.map Prod.fst).contains s.1 then acc else acc ++ [s]) spaces

/-- The namespaces that a template can call, following at most `fuel` uses: its own macros, those it uses,
those that the used ones use, and those of the templates it inherits from. -/
def namespacesUpTo (l : Library) : Nat → String → List Namespace
  | 0, _ => []
  | fuel + 1, name =>
    match l.find? name with
    | none => []
    | some t =>
      let own : List Namespace :=
        if t.macros.isEmpty then [] else [("self", name, t.macros)]
      let used := t.macroSources.foldl (fun acc source =>
        let macros := ((l.find? source.1).map fun s => s.macros).getD []
        addMissing (assignPair source.2 (source.1, macros) acc) (l.namespacesUpTo fuel source.1)) own
      (l.ancestors name).foldl (fun acc ancestor => addMissing acc (l.namespacesUpTo fuel ancestor))
        used

/-- The namespaces that a template can call. -/
def namespaces (l : Library) (name : String) : List Namespace :=
  l.namespacesUpTo (l.templates.size + 1) name

/-- A macro that a template can call, with the template that it comes from. -/
def findMacro (l : Library) (template space name : String) :
    Except Template.RenderFault (String × MacroDef) :=
  match (l.namespaces template).lookup space with
  | none => .error (.unknownNamespace space template)
  | some (source, macros) =>
    match macros.lookup name with
    | none => .error (.unknownMacro space name template)
    | some m => .ok (source, m)

end Library

end TraceDiagram
