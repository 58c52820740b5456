import TraceDiagram.Dict
import TraceDiagram.Template.Fault
import TraceDiagram.Template.Printed

/-! # Variables while a template is rendered

* **`Frame`** the variables of a loop, of a macro, of an embedded template or of the whole.
* **`RenderState`** the frames that are open, innermost first, and the blocks that are being rendered.
* **`Render`** a step of rendering. A fault keeps the state in which it was met.
* **`RenderState.find?`** looks a path up from frame to frame, then in the given context.
* **`resolve`** looks a path up after working out the indices in its brackets.
-/

namespace TraceDiagram.Template

open Text

/-- The variables that a template is given. -/
abbrev Context := Dict String Json

/-- What a loop does after the piece just rendered. -/
inductive Signal where
  /-- It goes on with the body. -/
  | goOn
  /-- It goes on with the next item. -/
  | nextItem
  /-- It ends. -/
  | leave
  deriving DecidableEq, Repr

/-- How far a loop has come. -/
structure LoopState where
  /-- The name for the key of an item, if the loop wants it. -/
  keyName : Option String
  /-- The name for an item. -/
  valueName : String
  /-- The items with their keys. -/
  items : List (String × Json)
  /-- The place of the item in hand. -/
  index : Nat
  /-- What the loop does next. -/
  signal : Signal

/-- What a frame belongs to. -/
inductive FrameKind where
  /-- The template as a whole. -/
  | whole
  /-- A macro of a namespace. -/
  | macroBody (space name : String)
  /-- A loop. -/
  | loop
  /-- An embedded template. -/
  | embedded
  deriving DecidableEq, Repr

/-- The variables of a loop, of a macro, of an embedded template or of the whole. -/
structure Frame where
  /-- What it belongs to. -/
  kind : FrameKind
  /-- The name of the template whose text is being rendered. -/
  template : String
  /-- The variables that have been given values. -/
  vars : Context
  /-- How far the loop has come, if it is one. -/
  loop : Option LoopState

/-- A block that is being rendered. -/
structure OpenBlock where
  /-- Its name. -/
  name : String
  /-- The template whose version of it is rendered. -/
  template : String
  /-- How many steps of inheritance lie between that template and the one asked for. -/
  level : Nat
  deriving DecidableEq, Repr

/-- What is open while a template is rendered. -/
structure RenderState where
  /-- The frames, innermost first. -/
  frames : List Frame
  /-- The blocks, innermost first. -/
  blocks : List OpenBlock

/-- A step of rendering. -/
abbrev Render := ExceptT RenderFault (StateM RenderState)

/-! ## Looking up -/

namespace LoopState

/-- The item in hand. -/
def value? (l : LoopState) : Option Json := l.items[l.index]?.map Prod.snd

/-- The key of the item in hand. -/
def key? (l : LoopState) : Option String := l.items[l.index]?.map Prod.fst

/-- What the loop itself knows about a path. -/
def find? (l : LoopState) (path : List Char) : Option Json :=
  let text := String.ofList path
  if text = "loop.index" then some (Json.int (l.index + 1))
  else if text = "loop.index0" then some (Json.int l.index)
  else if text = "loop.first" then some (.flag (l.index = 0))
  else if text = "loop.last" then some (.flag (l.index + 1 = l.items.length))
  else
    let root := String.ofList (path.takeWhile (· ≠ '.'))
    let rest := (path.dropWhile (· ≠ '.')).drop 1
    if l.keyName = some text then l.key?.map Json.text
    else if root = l.valueName then l.value?.bind (Json.follow rest)
    else none

end LoopState

/-- What some variables know about a path: its first name is the variable, the others lead into its value. -/
def findIn (vars : Context) (path : List Char) : Option Json :=
  (vars.get? (String.ofList (path.takeWhile (· ≠ '.')))).bind fun v =>
    v.follow ((path.dropWhile (· ≠ '.')).drop 1)

namespace Frame

/-- Whether what stands around the frame can be seen from within. -/
def isOpen (f : Frame) : Bool :=
  match f.kind with
  | .whole | .macroBody _ _ => false
  | .loop | .embedded => true

/-- What the frame knows about a path. -/
def find? (f : Frame) (path : List Char) : Option Json :=
  findIn f.vars path <|> f.loop.bind fun l => l.find? path

end Frame

/-- What some frames, innermost first, know about a path. -/
def findInFrames (path : List Char) : List Frame → Option Json
  | [] => none
  | f :: rest =>
    match f.find? path with
    | some v => some v
    | none => if f.isOpen then findInFrames path rest else none

namespace RenderState

/-- What the frames or the context know about a path. -/
def find? (s : RenderState) (context : Context) (path : List Char) : Option Json :=
  findInFrames path s.frames <|> findIn context path

/-- The name of the template whose text is being rendered. -/
def template (s : RenderState) : String :=
  match s.frames with
  | [] => ""
  | f :: _ => f.template

end RenderState

/-! ## Indices in brackets -/

/-- What stands in a bracket that has just been opened, and the rest behind it. -/
def bracketBody (depth : Nat) : List Char → List Char × List Char
  | [] => ([], [])
  | c :: cs =>
    if c = ']' && depth = 0 then ([], cs)
    else
      let inner := if c = '[' then depth + 1 else if c = ']' then depth - 1 else depth
      let (body, rest) := bracketBody inner cs
      (c :: body, rest)

/-- The indices in the outer brackets of a path that are neither quoted nor numbers, reading at most `fuel`
characters or brackets. -/
def indicesUpTo : Nat → List Char → List (List Char)
  | 0, _ => []
  | _ + 1, [] => []
  | fuel + 1, c :: cs =>
    if c = '[' then
      match cs with
      | '"' :: rest | '\'' :: rest => indicesUpTo fuel rest
      | _ =>
        let (body, rest) := bracketBody 0 cs
        let later := indicesUpTo fuel rest
        if !body.isEmpty && body.all Char.isDigit then later else body :: later
    else indicesUpTo fuel cs

/-- The indices in the outer brackets of a path that are neither quoted nor numbers. -/
def bracketIndices (path : List Char) : List (List Char) := indicesUpTo (path.length + 1) path

/-- A path with its brackets written as points. -/
def dottedPath (path : List Char) : List Char :=
  let steps : List (String × String) :=
    [("['", ".\""), ("[\"", ".\""), ("[", "."), ("']", "\""), ("\"]", "\""), ("]", "")]
  steps.foldl (fun cs step => replaceAll step.1.toList step.2.toList cs) path

/-- A path with one index replaced by what it has been worked out to. -/
def replaceIndex (index shown path : List Char) : List Char :=
  match splitOnce? ('[' :: index ++ [']']) path with
  | none => path ++ '[' :: shown ++ [']']
  | some (before, behind) => before ++ '[' :: shown ++ ']' :: behind

/-- The value of a path whose brackets are nested at most `depth` deep. -/
def resolveUpTo (s : RenderState) (context : Context) : Nat → List Char → Except RenderFault Json
  | 0, path => .error (.unknownVariable (String.ofList path) s.template)
  | depth + 1, path =>
    if path.contains '[' then do
      let workedOut ← (bracketIndices path).foldlM (fun (done : List Char) index =>
        match resolveUpTo s context depth index with
        | .error cause => Except.error (.badIndex (String.ofList path) cause)
        | .ok (.text t) => .ok (replaceIndex index ('"' :: t.toList ++ ['"']) done)
        | .ok (.number n) => .ok (replaceIndex index n.dataText done)
        | .ok _ => .error (.indexKind (String.ofList index) (String.ofList path))) path
      let dotted := dottedPath workedOut
      match s.find? context dotted with
      | some v => .ok v
      | none => .error (.unknownElement (String.ofList path) s.template (String.ofList dotted))
    else
      match s.find? context path with
      | some v => .ok v
      | none => .error (.unknownVariable (String.ofList path) s.template)

/-- The value of a path. -/
def resolve (s : RenderState) (context : Context) (path : String) : Except RenderFault Json :=
  resolveUpTo s context (path.length + 1) path.toList

/-! ## The whole context as text -/

/-- The variables of some frames and what the loops in them know, inner ones given way to outer ones, and
whether the frames' surroundings can be seen. -/
def frameVariables : List Frame → List (String × Json) × Bool
  | [] => ([], true)
  | f :: rest =>
    let own := f.vars.entries ++ match f.loop with
      | none => []
      | some l =>
        (l.value?.map fun v => (l.valueName, v)).toList ++
          (match l.keyName, l.key? with
          | some name, some key => [(name, Json.text key)]
          | _, _ => [])
    match f.kind with
    | .macroBody _ _ => (own, false)
    | _ =>
      let (outer, isOpen) := frameVariables rest
      (own ++ outer, isOpen)

/-- All variables that can be seen, as text. -/
def contextText (s : RenderState) (context : Context) : String :=
  let (vars, isOpen) := frameVariables s.frames
  (Json.ofPairs ((if isOpen then context.entries else []) ++ vars)).prettyText

end TraceDiagram.Template
