import TraceDiagram.Cast

/-! # Statements

What a line of a trace says, in terms of the diagram.

* **`StatementKind`** the kinds of statements, with the template, the entities and the bookmark of each.
* **`Param`** an attribute and its value in a list of parameters, **`Remark`** where a line came from.
* **`Statement`** a kind with attributes, parameters and a remark.
-/

namespace TraceDiagram

/-- The kinds of statements. -/
inductive StatementKind where
  /-- A message leaves an entity. -/
  | messageSend
  /-- A message reaches an entity. -/
  | messageReceive
  /-- A method or function is called. -/
  | invoke
  /-- A method or function returns. -/
  | methodReturn
  /-- An entity is created. -/
  | create
  /-- An entity is deleted. -/
  | delete
  /-- An entity changes its state. -/
  | stateChange
  /-- A timer is started. -/
  | startTimer
  /-- A timer is stopped. -/
  | stopTimer
  /-- A timer runs out. -/
  | expiredTimer
  /-- A resource is allocated. -/
  | allocate
  /-- A resource is freed. -/
  | free
  /-- An action begins. -/
  | beginAction
  /-- An action ends. -/
  | endAction
  /-- Any other action. -/
  | genericAction
  deriving DecidableEq, Repr

namespace StatementKind

/-- The name of the template for statements of this kind. -/
def templateName : StatementKind → String
  | .messageSend | .messageReceive => "message"
  | .invoke => "invoke"
  | .methodReturn => "method_return"
  | .create => "create"
  | .delete => "delete"
  | .stateChange => "state_change"
  | .startTimer => "start_timer"
  | .stopTimer => "stop_timer"
  | .expiredTimer => "expired_timer"
  | .allocate => "allocate"
  | .free => "free"
  | .beginAction => "begin_action"
  | .endAction => "end_action"
  | .genericAction => "action"

/-- The attributes that name entities, with what each reference tells about the entity. -/
def entityKeys : StatementKind → List (String × Lifetime)
  | .messageSend | .messageReceive => [("source", .any), ("destination", .any)]
  | .invoke => [("caller", .any), ("called", .any)]
  | .methodReturn => [("called", .any)]
  | .create => [("creator", .any), ("created", .created)]
  | .delete => [("deletor", .any), ("deleted", .deleted)]
  | .genericAction => [("actor", .any)]
  | .stateChange | .startTimer | .stopTimer | .expiredTimer | .allocate | .free | .beginAction
  | .endAction => [("object", .any)]

/-- The attribute that is looked for among the bookmarks. -/
def bookmarkKey? : StatementKind → Option String
  | .messageSend | .messageReceive => some "message"
  | .invoke => some "method"
  | .startTimer | .stopTimer | .expiredTimer => some "timer"
  | .genericAction | .beginAction | .endAction => some "action"
  | .stateChange => some "state"
  | .allocate | .free => some "resource"
  | .methodReturn | .create | .delete => none

end StatementKind

/-- An attribute and its value in a list of parameters. -/
structure Param where
  /-- The attribute. -/
  name : String
  /-- Its value. -/
  value : String
  deriving DecidableEq, Repr

/-- Where a line came from. -/
structure Remark where
  /-- The time of the line. -/
  time : String
  /-- The place in the program. -/
  file : String
  /-- The entity that wrote the line. -/
  generator : String
  deriving DecidableEq, Repr

/-- What a line of a trace says. -/
structure Statement where
  /-- Its kind. -/
  kind : StatementKind
  /-- Its attributes. -/
  attributes : Dict String String := ∅
  /-- Its parameters, if the pattern for its body looks for any. -/
  params : Option (List Param) := none
  /-- Where it came from. -/
  remark : Option Remark := none
  deriving DecidableEq, Repr

namespace Statement

/-- The value of an attribute. -/
def value? (s : Statement) (key : String) : Option String := s.attributes.get? key

/-- Sets an attribute. -/
def setAttribute (s : Statement) (key value : String) : Statement :=
  { s with attributes := s.attributes.insert key value }

/-- Sets an attribute only if it is missing. -/
def setDefault (s : Statement) (key value : String) : Statement :=
  { s with attributes := s.attributes.insertNew key value }

/-- Sets the parameters. -/
def setParams (s : Statement) (params : List Param) : Statement := { s with params := some params }

/-- Sets the remark. -/
def setRemark (s : Statement) (remark : Remark) : Statement := { s with remark := some remark }

/-! ## What the setters do -/

section Setters

variable (s : Statement) (key other value : String) (params : List Param) (remark : Remark)

/-- A statement has no attributes of its own. -/
@[simp] theorem value?_mk (kind : StatementKind) : ({ kind := kind } : Statement).value? key = none := rfl

@[simp] theorem kind_setAttribute : (s.setAttribute key value).kind = s.kind := rfl

@[simp] theorem params_setAttribute : (s.setAttribute key value).params = s.params := rfl

/-- A set attribute has the value given, every other one the value it had. -/
@[simp] theorem value?_setAttribute :
    (s.setAttribute key value).value? other = if other = key then some value else s.value? other :=
  Dict.get?_insert _ _ _ _

@[simp] theorem kind_setDefault : (s.setDefault key value).kind = s.kind := rfl

@[simp] theorem params_setDefault : (s.setDefault key value).params = s.params := rfl

/-- An attribute that is set if missing keeps the value it had, if it had one. -/
@[simp] theorem value?_setDefault :
    (s.setDefault key value).value? other =
      if other = key then some ((s.value? key).getD value) else s.value? other :=
  Dict.get?_insertNew _ _ _ _

@[simp] theorem kind_setParams : (s.setParams params).kind = s.kind := rfl

@[simp] theorem params_setParams : (s.setParams params).params = some params := rfl

@[simp] theorem value?_setParams : (s.setParams params).value? key = s.value? key := rfl

@[simp] theorem kind_setRemark : (s.setRemark remark).kind = s.kind := rfl

@[simp] theorem params_setRemark : (s.setRemark remark).params = s.params := rfl

@[simp] theorem value?_setRemark : (s.setRemark remark).value? key = s.value? key := rfl

@[simp] theorem remark_setRemark : (s.setRemark remark).remark = some remark := rfl

end Setters

/-! ## Entities and bookmarks -/

/-- The entities that the statement refers to, in the order of its kind; missing and empty names are none. -/
def references (s : Statement) : List (String × Lifetime) :=
  s.kind.entityKeys.filterMap fun p =>
    match s.value? p.1 with
    | some name => if name.isEmpty then none else some (name, p.2)
    | none => none

/-- The text that is looked for among the bookmarks, if there is any. -/
def bookmark? (s : Statement) : Option String :=
  match s.kind.bookmarkKey?.bind s.value? with
  | some value => if value.isEmpty then none else some value
  | none => none

end Statement

end TraceDiagram
