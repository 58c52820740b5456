import TraceDiagram.Template.Syntax
import TraceDiagram.Text.Blank

/-! # White space around tags

A tag may ask that the white space in front of it or behind it be dropped from the running text there.

* **`trimNodes`** drops it in a body and the bodies in it.
-/

namespace TraceDiagram.Template

open Text

/-- Running text, unless it is empty. -/
def textNodes (cs : List Char) : List Node :=
  if cs.isEmpty then [] else [.text (String.ofList cs)]

/-- Drops the white space at the end of pieces whose last comes first, if that is running text. -/
def trimLast (wanted : Bool) (done : List Node) : List Node :=
  match wanted, done with
  | true, .text s :: rest => textNodes (trimEndChars s.toList) ++ rest
  | _, _ => done

/-- Drops white space at the end of a body. -/
def trimBodyEnd (wanted : Bool) (body : List Node) : List Node :=
  (trimLast wanted body.reverse).reverse

/-- Drops white space at the ends of raw text. -/
def trimRaw (left right : Bool) (s : String) : String :=
  let cs := s.toList
  let cs := if left then trimStartChars cs else cs
  String.ofList (if right then trimEndChars cs else cs)

/-- What has been trimmed of a body, and what is known about the place reached. -/
structure TrimState where
  /-- The pieces done, last first. -/
  done : List Node
  /-- Whether the piece read last was running text. -/
  afterText : Bool
  /-- Whether white space at the start of the next running text goes. -/
  trimNext : Bool

namespace TrimState

/-- Drops white space in front of a tag that wants it. -/
def before (s : TrimState) (wanted : Bool) : List Node := trimLast (s.afterText && wanted) s.done

/-- Adds running text. -/
def addText (s : TrimState) (text : String) : TrimState :=
  if s.trimNext then
    { done := textNodes (trimStartChars text.toList) ++ s.done, afterText := true, trimNext := false }
  else { s with done := .text text :: s.done, afterText := true }

/-- Adds a piece with the given tags in front and behind. -/
def addTag (s : TrimState) (left right : Bool) (node : Node) : TrimState :=
  { done := node :: s.before left, afterText := false, trimNext := right }

end TrimState

/-- Branches whose bodies have been trimmed, after the tags that follow each took their part: the last branch
is followed by a tag with the flag given. -/
def trimBranchEnds (lastLeft : Bool) :
    List (Trim × Expr × List Node) → List (Trim × Expr × List Node)
  | [] => []
  | [(trim, test, body)] => [(trim, test, trimBodyEnd lastLeft body)]
  | (trim, test, body) :: (trim', test', body') :: rest =>
    (trim, test, trimBodyEnd trim'.left body)
      :: trimBranchEnds lastLeft ((trim', test', body') :: rest)

/-- Whether the first tag of some branches drops white space in front of it. -/
def firstLeft : List (Trim × Expr × List Node) → Bool
  | [] => false
  | (trim, _, _) :: _ => trim.left

/-- Adds a choice whose bodies have been trimmed at their starts. -/
def TrimState.addCond (s : TrimState) (branches : List (Trim × Expr × List Node))
    (otherwise : Option (Trim × List Node)) (closeTag : Trim) : TrimState :=
  let node : Node := match otherwise with
    | none => .cond (trimBranchEnds closeTag.left branches) none closeTag
    | some (trim, body) =>
      .cond (trimBranchEnds trim.left branches) (some (trim, trimBodyEnd closeTag.left body)) closeTag
  s.addTag (firstLeft branches) closeTag.right node

mutual

/-- Trims a body: `left` and `right` say whether the tags around it drop the white space at its ends. -/
def trimBody (left right : Bool) (nodes : List Node) : List Node :=
  let s := trimInto { done := [], afterText := false, trimNext := left } nodes
  (trimLast right s.done).reverse

/-- Trims the pieces that follow, given what has been trimmed. -/
def trimInto (s : TrimState) : List Node → TrimState
  | [] => s
  | node :: rest => trimInto (trimNode s node) rest

/-- Trims one piece, given what has been trimmed. -/
def trimNode (s : TrimState) : Node → TrimState
  | .text text => s.addText text
  | .raw openTag text closeTag =>
    s.addTag openTag.left closeTag.right
      (.raw openTag (trimRaw openTag.right closeTag.left text) closeTag)
  | .comment trim => s.addTag trim.left trim.right (.comment trim)
  | .print trim e => s.addTag trim.left trim.right (.print trim e)
  | .assign trim everywhere name value =>
    s.addTag trim.left trim.right (.assign trim everywhere name value)
  | .filtered openTag filter body closeTag =>
    s.addTag openTag.left closeTag.right
      (.filtered openTag filter (trimBody openTag.right closeTag.left body) closeTag)
  | .cond branches otherwise closeTag =>
    s.addCond (trimBranches branches) (trimOtherwise otherwise) closeTag
  | .each openTag key value container body ifEmpty closeTag =>
    s.addTag openTag.left closeTag.right
      (.each openTag key value container (trimBody openTag.right closeTag.left body) ifEmpty closeTag)
  | .leave trim => s.addTag trim.left trim.right (.leave trim)
  | .next trim => s.addTag trim.left trim.right (.next trim)
  | .block openTag name body closeTag =>
    s.addTag openTag.left closeTag.right
      (.block openTag name (trimBody openTag.right closeTag.left body) closeTag)
  | .inherited => { s with done := .inherited :: s.done, afterText := false }
  | .embed trim names optional => s.addTag trim.left trim.right (.embed trim names optional)
  | .inherit trim name => s.addTag trim.left trim.right (.inherit trim name)
  | .useMacros trim template space =>
    s.addTag trim.left trim.right (.useMacros trim template space)
  | .macroDef openTag name params body closeTag =>
    s.addTag openTag.left closeTag.right
      (.macroDef openTag name params (trimBody openTag.right closeTag.left body) closeTag)

/-- Trims the bodies of branches at their starts, and the bodies in them. -/
def trimBranches : List (Trim × Expr × List Node) → List (Trim × Expr × List Node)
  | [] => []
  | (trim, test, body) :: rest => (trim, test, trimBody trim.right false body) :: trimBranches rest

/-- Trims the body of the last branch at its start, and the bodies in it. -/
def trimOtherwise : Option (Trim × List Node) → Option (Trim × List Node)
  | none => none
  | some (trim, body) => some (trim, trimBody trim.right false body)

end

/-- Trims a whole template. -/
def trimNodes (nodes : List Node) : List Node := trimBody false false nodes

end TraceDiagram.Template
