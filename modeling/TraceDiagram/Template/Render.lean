import TraceDiagram.Template.Eval
import TraceDiagram.Template.Library

/-! # Rendering templates

* **`Node.render`** the text of one piece, by recursion on it. What stands elsewhere (macros, embedded
  templates, blocks of other templates) is rendered by a step that is handed in.
* **`renderNodes`** ties that step to the renderer itself, for texts nested up to a depth.
* **`Library.render`** the text of a template of a library.

Nothing bounds how deeply templates may call one another on a machine, but its memory. Here they may do so up to
`depthLimit`, and beyond that, so also where they never come to an end, rendering fails with the fault
`RenderFault.endless`, which exists for this alone.
-/

namespace TraceDiagram

namespace Template

/-- What is fixed while a template is rendered. -/
structure Job where
  /-- All templates. -/
  library : Library
  /-- The name of the template asked for. -/
  name : String
  /-- The template asked for. -/
  template : Template
  /-- The templates that it inherits from, nearest first. -/
  ancestors : List String
  /-- The variables that it is given. -/
  context : Context

namespace Job

/-- The name of the template whose pieces are rendered: the last one of the line of inheritance. -/
def rootName (j : Job) : String := j.ancestors.getLastD j.name

/-- The pieces to render. -/
def rootNodes (j : Job) : List Node :=
  match j.library.find? j.rootName with
  | some t => t.nodes
  | none => []

end Job

/-- A step that renders pieces that stand elsewhere. -/
abbrev Elsewhere := List Node → Render String

/-! ## Frames and blocks -/

/-- Opens a frame. -/
def pushFrame (f : Frame) : Render Unit := modify fun s => { s with frames := f :: s.frames }

/-- Closes the innermost frame. -/
def popFrame : Render Unit := modify fun s => { s with frames := s.frames.tail }

/-- Changes the innermost frame. -/
def changeFrame (f : Frame → Frame) : Render Unit := modify fun s =>
  match s.frames with
  | [] => s
  | frame :: rest => { s with frames := f frame :: rest }

/-- Gives a variable a value in the first of some frames that is no loop. -/
def assignOutside (name : String) (v : Json) : List Frame → List Frame
  | [] => []
  | f :: rest =>
    match f.kind with
    | .loop => f :: assignOutside name v rest
    | _ => { f with vars := f.vars.insert name v } :: rest

/-- Gives a variable a value. -/
def assignVariable (everywhere : Bool) (name : String) (v : Json) : Render Unit :=
  if everywhere then modify fun s => { s with frames := assignOutside name v s.frames }
  else changeFrame fun f => { f with vars := f.vars.insert name v }

/-- Whether the innermost frame is a loop whose body is to be left. -/
def bodyEnds : Render Bool := do
  match (← get).frames with
  | [] => return false
  | f :: _ => return match f.loop with
    | none => false
    | some l => l.signal ≠ .goOn

/-- Tells the innermost loop what to do next. -/
def signalLoop (signal : Signal) (word : String) : Render Unit := do
  match (← get).frames with
  | { loop := some _, .. } :: _ =>
    changeFrame fun f => { f with loop := f.loop.map fun l => { l with signal := signal } }
  | _ => fail ("Attempted `" ++ word ++ "` while not in `for loop`")

/-- Makes the innermost loop ready for its next item. -/
def advanceLoop : Render Unit :=
  changeFrame fun f =>
    { f with
      vars := ∅
      loop := f.loop.map fun l => { l with index := l.index + 1, signal := .goOn } }

/-- Whether the innermost loop is to be left. -/
def loopEnds : Render Bool := do
  match (← get).frames with
  | [] => return false
  | f :: _ => return match f.loop with
    | none => false
    | some l => l.signal = .leave

/-- Renders the body of the innermost loop for as many items. -/
def repeatBody (body : Render String) : Nat → Render String
  | 0 => pure ""
  | count + 1 => do
    let s ← body
    if ← loopEnds then return s
    advanceLoop
    let more ← repeatBody body count
    return s ++ more

/-- Opens a block. -/
def pushBlock (b : OpenBlock) : Render Unit := modify fun s => { s with blocks := b :: s.blocks }

/-- Closes the innermost block. -/
def popBlock : Render Unit := modify fun s => { s with blocks := s.blocks.tail }

namespace Job

variable (j : Job)

/-- The first of some templates that has a block, with its place in the line and its version. -/
def findBlock (name : String) : Nat → List String → Option (OpenBlock × List Node)
  | _, [] => none
  | level, template :: rest =>
    match (j.library.find? template).bind fun t => t.blocks.lookup name with
    | some body => some (⟨name, template, level⟩, body)
    | none => findBlock name (level + 1) rest

/-- Renders a block: the version of the template in hand or of the nearest that it inherits from. -/
def renderBlock (elsewhere : Elsewhere) (name : String) (own : Render String) : Render String := do
  let active := (← get).template
  match j.findBlock name 0 (active :: j.library.ancestors active) with
  | some (block, body) =>
    pushBlock block
    elsewhere body
  | none => own

/-- Renders the version of the innermost block that it replaces. -/
def renderInherited (elsewhere : Elsewhere) : Render String := do
  match (← get).blocks with
  | [] => fail "Tried to use super() in the top level block"
  | b :: _ =>
    match j.findBlock b.name (b.level + 1) (j.ancestors.drop b.level) with
    | none => fail "Tried to use super() in the top level block"
    | some (block, body) =>
      pushBlock block
      let s ← elsewhere body
      popBlock
      if j.ancestors.length ≤ block.level then popBlock
      return s

/-- The template in which the macros that can be called are looked for. -/
def macroTemplate : Render String := do
  let s ← get
  match s.blocks with
  | b :: _ => return b.template
  | [] => return if j.name ≠ j.rootName then j.rootName else s.template

/-- Works out the parameters of a macro: given ones, or else default ones. -/
def bindParams (name : String) (default : Expr → Render Json) (args : Pending) :
    List (String × Option Expr) → Render (List (String × Json))
  | [] => pure []
  | (param, fallback) :: rest => do
    let v ← match args.lookup param, fallback with
      | some step, _ => step
      | none, some e => default e
      | none, none => throw (.macroArgument name param)
    let more ← bindParams name default args rest
    return (param, v) :: more

/-- The text that a macro gives for arguments. -/
def callMacro (elsewhere : Elsewhere) (default : Expr → Render Json) (space name : String)
    (args : Pending) : Render String := do
  match j.library.findMacro (← j.macroTemplate) space name with
  | .error e => throw e
  | .ok (source, m) =>
    let vars ← bindParams name default args m.params
    pushFrame
      { kind := .macroBody space name, template := source, vars := Dict.ofList vars, loop := none }
    let s ← elsewhere m.body
    popFrame
    return s

/-- What expressions need from their surroundings. The default values of parameters are plain values, and
call no macro. -/
def surroundings (elsewhere : Elsewhere) : Surroundings :=
  let plain : Surroundings := { context := j.context, callMacro := fun _ _ _ => pure "" }
  { context := j.context
    callMacro := j.callMacro elsewhere fun e => (e.meaning plain).value }

/-- Renders the first of some templates that there is. -/
def renderEmbedded (elsewhere : Elsewhere) (names : List String) (optional : Bool) :
    Render String := do
  match names.find? fun name => (j.library.find? name).isSome with
  | none =>
    if optional then return ""
    else throw (.unknownTemplate ("[" ++ ", ".intercalate names ++ "]"))
  | some name =>
    pushFrame { kind := .embedded, template := name, vars := ∅, loop := none }
    let s ← elsewhere (((j.library.find? name).map fun t => t.nodes).getD [])
    popFrame
    return s

end Job

/-- The items of a container with their keys; `shown` is how messages name it. -/
def loopItems (shown : String) (wantsKey : Bool) (v : Json) : Except RenderFault (List (String × Json)) :=
  let noKeys : RenderFault := .other ("Tried to iterate using key value on variable `" ++ shown
    ++ "`, but it isn't an object/map")
  match v with
  | .list items => if wantsKey then .error noKeys else .ok (items.map (Prod.mk ""))
  | .text s =>
    if wantsKey then .error noKeys
    else .ok ((Text.graphemes s.toList).map fun c => ("", .text (String.ofList c)))
  | .object pairs =>
    if wantsKey then .ok pairs
    else .error (.other ("Tried to iterate using key value on variable `" ++ shown
      ++ "`, but it is missing a key"))
  | _ => .error (.other
      ("Tried to iterate on a container (`" ++ shown ++ "`) that has a unsupported type"))

/-- How messages name the container of a loop. -/
def containerName (container : Expr) : Except RenderFault String :=
  match container.term with
  | .path p => .ok p
  | .call c => .ok c.name
  | .list _ => .ok "an array literal"
  | t => .error (.other
      ("Forloop containers have to be an ident or a function call (tried to iterate on '"
        ++ t.describe ++ "')"))

/-- Renders a loop whose container has been worked out. -/
def renderLoop (key : Option String) (value : String) (items : List (String × Json))
    (body : Render String) (ifEmpty : Render String) : Render String :=
  if items.isEmpty then ifEmpty
  else do
    let template := (← get).template
    pushFrame
      { kind := .loop, template := template, vars := ∅,
        loop := some
          { keyName := key, valueName := value, items := items, index := 0, signal := .goOn } }
    let s ← repeatBody body items.length
    popFrame
    return s

mutual

/-- The text of one piece. -/
def Node.render (j : Job) (elsewhere : Elsewhere) : Node → Render String
  | .text s => pure s
  | .raw _ s _ => pure s
  | .comment _ => pure ""
  | .print _ e => do
    let v ← (e.meaning (j.surroundings elsewhere)).value
    return v.printedText
  | .assign _ everywhere name e => do
    let v ← (e.meaning (j.surroundings elsewhere)).value
    assignVariable everywhere name v
    return ""
  | .filtered _ (.mk name args) body _ => do
    let s ← renderBody j elsewhere body
    if name = "safe" then return s
    let v ← applyFilter name (pendingArgs (j.surroundings elsewhere) args) (.text s)
    return v.printedText
  | .cond branches otherwise _ => do
    match ← renderBranches j elsewhere branches with
    | some s => return s
    | none => renderOtherwise j elsewhere otherwise
  | .each _ key value container body ifEmpty _ => do
    match containerName container with
    | .error e => throw e
    | .ok shown =>
      let v ← (container.meaning (j.surroundings elsewhere)).value
      match loopItems shown key.isSome v with
      | .error e => throw e
      | .ok items =>
        renderLoop key value items (renderBody j elsewhere body) (renderIfEmpty j elsewhere ifEmpty)
  | .leave _ => do
    signalLoop .leave "break"
    return ""
  | .next _ => do
    signalLoop .nextItem "continue"
    return ""
  | .block _ name body _ => j.renderBlock elsewhere name (renderBody j elsewhere body)
  | .inherited => j.renderInherited elsewhere
  | .embed _ names optional => j.renderEmbedded elsewhere names optional
  | .inherit _ name =>
    fail ("Inheritance in included templates is currently not supported: extended `" ++ name ++ "`")
  | .useMacros _ _ _ => pure ""
  | .macroDef _ _ _ _ _ => pure ""

/-- The text of some pieces, up to where a loop leaves them. -/
def renderBody (j : Job) (elsewhere : Elsewhere) : List Node → Render String
  | [] => pure ""
  | node :: rest => do
    let s ← node.render j elsewhere
    if ← bodyEnds then return s
    let more ← renderBody j elsewhere rest
    return s ++ more

/-- The text of the first branch whose condition is true. -/
def renderBranches (j : Job) (elsewhere : Elsewhere) :
    List (Trim × Expr × List Node) → Render (Option String)
  | [] => pure none
  | (_, test, body) :: rest => do
    if ← (test.meaning (j.surroundings elsewhere)).truth then
      some <$> renderBody j elsewhere body
    else renderBranches j elsewhere rest

/-- The text of the last branch, if there is one. -/
def renderOtherwise (j : Job) (elsewhere : Elsewhere) : Option (Trim × List Node) → Render String
  | none => pure ""
  | some (_, body) => renderBody j elsewhere body

/-- The text for a loop without items, if there is one. -/
def renderIfEmpty (j : Job) (elsewhere : Elsewhere) : Option (List Node) → Render String
  | none => pure ""
  | some body => renderBody j elsewhere body

end

/-- The text of some pieces; what stands elsewhere may be nested up to a depth. -/
def renderNodes (j : Job) : Nat → List Node → Render String
  | 0, _ => throw .endless
  | depth + 1, nodes => renderBody j (renderNodes j depth) nodes

/-- How deep macros, embedded templates and blocks may call one another. -/
def depthLimit : Nat := 2000

/-- The words for the place at which a fault was met. -/
def Job.place (j : Job) (s : RenderState) : String :=
  let inMacro := match s.frames with
    | { kind := .macroBody space name, .. } :: _ =>
      ": error while rendering macro `" ++ space ++ "::" ++ name ++ "`"
    | _ => ""
  let elsewhere := match s.blocks, j.ancestors.getLast? with
    | b :: _, _ =>
      let versions :=
        if (j.template.blocks.lookup b.name).isSome then
          j.name :: j.ancestors.filter fun ancestor =>
            ((j.library.find? ancestor).bind fun t => t.blocks.lookup b.name).isSome
        else []
      match versions[b.level]? with
      | some name => if name = j.name then "" else " (error happened in '" ++ name ++ "')."
      | none => " (error happened in a parent template)"
    | [], some ancestor => " (error happened in '" ++ ancestor ++ "')."
    | [], none => ""
  "Failed to render '" ++ j.name ++ "'" ++ inMacro ++ elsewhere

/-- The state in which rendering begins. -/
def Job.start (j : Job) : RenderState :=
  { frames := [{ kind := .whole, template := j.name, vars := ∅, loop := none }], blocks := [] }

/-- The text of the template asked for. -/
def Job.run (j : Job) : Except RenderError String :=
  match (renderNodes j depthLimit j.rootNodes).run j.start with
  | (.ok s, _) => .ok s
  | (.error fault, s) => .error { place := some (j.place s), fault := fault }

end Template

/-- The text of a template of a library, for the given variables. -/
def Library.render (l : Library) (name : String) (context : Template.Context) :
    Except Template.RenderError String :=
  match l.find? name with
  | none => .error { place := none, fault := .unknownTemplate name }
  | some t =>
    Template.Job.run
      { library := l, name := name, template := t, ancestors := l.ancestors name, context := context }

end TraceDiagram
