import TraceDiagram.Proofs.Default.CallForest
import TraceDiagram.Proofs.ParamLists

/-! # Notes in a log

What a program notes in its log, in the form of the default configuration, is read as it was meant, whatever
has been read before.

* **`Note`** what a line says: a message, a call, a creation, a deletion, what happens to a timer or to the
  executing entity, or anything else.
* **`Note.line`** the line that is written; **`Note.statement`** the statement that is meant.
* **`completed_line`** what a line adds to a trace, by the handler of its category.
* **`Note.understood`** that handler makes of the line what is meant, kind by kind; **`statements_step_note`**
  reading the line adds it to the trace. -/

namespace TraceDiagram

open Text Unicode

/-! ## What is noted -/

/-- A text on one line without white space at its ends. It may be empty. -/
structure Phrase where
  /-- The characters. -/
  chars : List Char
  /-- There is no white space at the ends. -/
  trimmed : trimChars chars = chars
  /-- The text is on one line. -/
  newline_not_mem : '\n' ∉ chars

/-- The phrase as a string. -/
def Phrase.text (t : Phrase) : String := String.ofList t.chars

/-- A word given by its characters. -/
def Word.ofChars (chars : List Char)
    (h : chars ≠ [] ∧ chars.all Unicode.isWord = true := by decide) : Word :=
  ⟨chars, h.1, List.all_eq_true.1 h.2⟩

/-- What can happen to a timer. -/
inductive TimerChange where
  /-- It is started. -/
  | started
  /-- It is stopped. -/
  | stopped
  /-- It runs out. -/
  | expired

namespace TimerChange

/-- The category of the change. -/
def category : TimerChange → Word
  | .started => .ofChars ['s', 't', 'a', 'r', 't', 'e', 'd']
  | .stopped => .ofChars ['s', 't', 'o', 'p', 'p', 'e', 'd']
  | .expired => .ofChars ['e', 'x', 'p', 'i', 'r', 'e', 'd']

/-- The kind of statements about the change. -/
def kind : TimerChange → StatementKind
  | .started => .startTimer
  | .stopped => .stopTimer
  | .expired => .expiredTimer

end TimerChange

/-- What can happen to the executing entity. -/
inductive EntityChange where
  /-- It changes its state. -/
  | state
  /-- It allocates a resource. -/
  | allocated
  /-- It frees a resource. -/
  | freed
  /-- It begins an action. -/
  | begun
  /-- It ends an action. -/
  | ended

namespace EntityChange

/-- The category of the change. -/
def category : EntityChange → Word
  | .state => .ofChars ['s', 't', 'a', 't', 'e']
  | .allocated => .ofChars ['a', 'l', 'l', 'o', 'c', 'a', 't', 'e', 'd']
  | .freed => .ofChars ['f', 'r', 'e', 'e', 'd']
  | .begun => .ofChars ['b', 'e', 'g', 'u', 'n']
  | .ended => .ofChars ['e', 'n', 'd', 'e', 'd']

/-- The kind of statements about the change. -/
def kind : EntityChange → StatementKind
  | .state => .stateChange
  | .allocated => .allocate
  | .freed => .free
  | .begun => .beginAction
  | .ended => .endAction

/-- The attribute in which a statement says what the change is about. -/
def key : EntityChange → String
  | .state => "state"
  | .allocated | .freed => "resource"
  | .begun | .ended => "action"

end EntityChange

/-- What one line of a log says. -/
inductive Note where
  /-- A message reaches the entity that writes the line. -/
  | received (message : Word) (params : List PlainParam) (source : Word)
  /-- A message leaves the entity that writes the line. -/
  | sent (message : Word) (params : List PlainParam) (destination : Word)
  /-- A method or a function is called. -/
  | called (callee : Callee) (params : List PlainParam)
  /-- An entity is created. -/
  | created (entity : Word) (params : List PlainParam)
  /-- An entity is deleted. -/
  | deleted (entity : Word)
  /-- Something happens to a timer. -/
  | ofTimer (change : TimerChange) (name : Word)
  /-- Something happens to the executing entity. -/
  | ofEntity (change : EntityChange) (text : Phrase)
  /-- Anything else, under a category that has no handler of its own. -/
  | other (category : Word) (unmapped : ({} : Config).trace.mapping.get? category.text = none)
    (text : Phrase)

namespace Note

/-! ## The line -/

/-- The category of the line. -/
def category : Note → Word
  | .received .. => .ofChars ['r', 'e', 'c', 'e', 'i', 'v', 'e', 'd']
  | .sent .. => .ofChars ['s', 'e', 'n', 't']
  | .called .. => .called
  | .created .. => .ofChars ['c', 'r', 'e', 'a', 't', 'e', 'd']
  | .deleted .. => .ofChars ['d', 'e', 'l', 'e', 't', 'e', 'd']
  | .ofTimer change _ => change.category
  | .ofEntity change _ => change.category
  | .other category _ _ => category

/-- A list of parameters in parentheses. -/
def inParentheses (params : List PlainParam) : List Char :=
  '(' :: (PlainParam.writtenList params ++ [')'])

/-- What the line says behind its category. -/
def body : Note → List Char
  | .received message params source =>
    message.chars ++ inParentheses params ++ [' ', 'f', 'r', 'o', 'm', ' '] ++ source.chars
  | .sent message params destination =>
    message.chars ++ inParentheses params ++ [' ', 't', 'o', ' '] ++ destination.chars
  | .called callee params => callee.written ++ inParentheses params
  | .created entity params => entity.chars ++ inParentheses params
  | .deleted entity => entity.chars
  | .ofTimer _ name => name.chars
  | .ofEntity _ text | .other _ _ text => text.chars

/-- The line of a note. -/
def line (n : Note) (stamp : Stamp) : String := String.ofList (stamp.line n.category n.body)

/-! ## The statement -/

/-- The kind of the statement. -/
def kind : Note → StatementKind
  | .received .. => .messageReceive
  | .sent .. => .messageSend
  | .called .. => .invoke
  | .created .. => .create
  | .deleted _ => .delete
  | .ofTimer change _ => change.kind
  | .ofEntity change _ => change.kind
  | .other .. => .genericAction

/-- What the statement says of the note itself, if `generator` wrote the line while `caller` was executing. -/
def fields (generator caller : String) : Note → List (String × String)
  | .received message _ source =>
    [("message", message.text), ("source", source.text), ("destination", generator)]
  | .sent message _ destination =>
    [("message", message.text), ("destination", destination.text), ("source", generator)]
  | .called (.method object name) _ =>
    [("called", object.text), ("method", name.text), ("caller", caller)]
  | .called (.function name) _ =>
    [("method", name.text), ("called", name.text), ("caller", caller)]
  | .created entity _ => [("created", entity.text), ("creator", generator)]
  | .deleted entity => [("deleted", entity.text), ("deletor", generator)]
  | .ofTimer _ name => [("object", caller), ("timer", name.text)]
  | .ofEntity change text => [("object", caller), (change.key, text.text)]
  | .other category _ text =>
    [("actor", caller), ("action_type", category.text), ("action", text.text)]

/-- The parameters of the statement, if its kind has any. -/
def params : Note → Option (List Param)
  | .received _ params _ | .sent _ params _ | .called _ params | .created _ params =>
    some (params.map PlainParam.param)
  | .deleted _ | .ofTimer .. | .ofEntity .. | .other .. => none

end Note

/-- What a statement says of the line that it comes from. -/
def Stamp.fields (stamp : Stamp) (category : Word) : List (String × String) :=
  [("time", stamp.time.text), ("file", stamp.file.text), ("generator", stamp.generator.text),
    ("category", category.text)]

/-- Where a line with the stamp comes from. -/
def Stamp.remark (stamp : Stamp) : Remark where
  time := stamp.time.text
  file := stamp.file.text
  generator := stamp.generator.text

/-- The statement that is meant by a note, if `caller` is executing. -/
def Note.statement (n : Note) (stamp : Stamp) (caller : String) : Statement where
  kind := n.kind
  attributes := Dict.ofList (n.fields stamp.generator.text caller ++ stamp.fields n.category)
  params := n.params
  remark := some stamp.remark

/-! ## Lines -/

/-- What a handler learns of a line. -/
def Stamp.fieldsOf (stamp : Stamp) (category : Word) (body : List Char) : LineFields :=
  ⟨category.text, stamp.generator.text, String.ofList body⟩

/-- A line adds to a trace what the handler of its category makes of its body. -/
theorem completed_line (stamp : Stamp) (category : Word) {body : List Char} (hbody : '\n' ∉ body)
    (hhead : ∀ c ∈ body.head?, isBlank c = false) (stack : CallStack) :
    defaultReader.completed stack (String.ofList (stamp.line category body)) =
      (defaultRules.construct (stamp.fieldsOf category body) stack).1.map
        (TraceReader.complete (stamp.fieldsOf category body) stamp.remark) := by
  obtain ⟨groups, hgroups, hfields, hremark⟩ := DefaultPattern.captures_line stamp category hbody hhead
  have hon : defaultReader.groupsOn (String.ofList (stamp.line category body)) = some groups := by
    rw [TraceReader.groupsOn, String.toList_ofList]
    exact hgroups
  rw [TraceReader.completed, hon, Option.bind_some, hfields, hremark]
  rfl

namespace Note

/-- What a note says of itself if `generator` wrote the line while `caller` was executing: the statement before
it is completed with what is known about the line. -/
def description (n : Note) (generator caller : String) : Statement where
  kind := n.kind
  attributes := Dict.ofList (n.fields generator caller)
  params := n.params

/-- The fields of the line are missing in what a note says itself. -/
theorem insertNew_fields (n : Note) (generator caller time file origin category : String) :
    ((((Dict.ofList (n.fields generator caller)).insertNew "time" time).insertNew "file" file).insertNew
      "generator" origin).insertNew "category" category =
      Dict.ofList (n.fields generator caller ++ [("time", time), ("file", file), ("generator", origin),
        ("category", category)]) := by
  cases n with
  | called callee params => cases callee <;> rfl
  | ofEntity change text => cases change <;> rfl
  | _ => rfl

/-- Completed with what is known about the line, it is the statement that is meant. -/
theorem complete_description (n : Note) (stamp : Stamp) (caller : String) :
    TraceReader.complete (stamp.fieldsOf n.category n.body) stamp.remark
      (n.description stamp.generator.text caller) = n.statement stamp caller := by
  rw [statement, Stamp.fields, ← n.insertNew_fields]
  rfl

/-! ## Handlers -/

/-- The name of the handler for a note. -/
def handlerName : Note → String
  | .received .. => "MessageReceive"
  | .sent .. => "MessageSend"
  | .called .. => "Invoke"
  | .created .. => "Create"
  | .deleted _ => "Delete"
  | .ofTimer .started _ => "StartTimer"
  | .ofTimer .stopped _ => "StopTimer"
  | .ofTimer .expired _ => "ExpiredTimer"
  | .ofEntity .state _ => "StateChange"
  | .ofEntity .allocated _ => "Allocate"
  | .ofEntity .freed _ => "Free"
  | .ofEntity .begun _ => "BeginAction"
  | .ofEntity .ended _ => "EndAction"
  | .other .. => "Action"

/-- The default mapping names the handler. -/
theorem handlerName_category (n : Note) :
    defaultRules.handlerName n.category.text = n.handlerName := by
  cases n with
  | ofTimer change name => cases change <;> rfl
  | ofEntity change text => cases change <;> rfl
  | other category unmapped text =>
    have hmapping : defaultRules.mapping.get? category.text = none := unmapped
    rw [ExtractionRules.handlerName, Note.category, hmapping]
    rfl
  | _ => rfl

/-- The line of a note is handed to the handler of that name. -/
theorem construct_category (n : Note) (handler : Handler)
    (h : builtinHandlers.get? n.handlerName = some handler) (stamp : Stamp) (stack : CallStack) :
    defaultRules.construct (stamp.fieldsOf n.category n.body) stack =
      handler defaultBodyPatterns (stamp.fieldsOf n.category n.body) stack := by
  have hname : defaultRules.handlerName (stamp.fieldsOf n.category n.body).category = n.handlerName :=
    n.handlerName_category
  rw [ExtractionRules.construct, ExtractionRules.handlerFor_eq rfl hname h]
  rfl

/-- The parameters of a note as one text. -/
def arguments (params : List PlainParam) : Inline ')' where
  chars := PlainParam.writtenList params
  mark_not_mem := PlainParam.not_mem_writtenList params List.mem_cons_self
  newline_not_mem := PlainParam.not_mem_writtenList params (List.mem_cons_of_mem _ List.mem_cons_self)

/-- The text is read as the parameters it was written for. -/
theorem read_arguments (params : List PlainParam) :
    defaultBodyPatterns.paramSyntax.read (arguments params).text = params.map PlainParam.param :=
  ParamSyntax.read_writtenList params

/-- The handler of a note makes of its body what it says. -/
def Understood (n : Note) : Prop :=
  ∀ (stamp : Stamp) (stack : CallStack),
    (defaultRules.construct (stamp.fieldsOf n.category n.body) stack).1 =
      some (n.description stamp.generator.text stack.caller)

/-- A handler that adds the generator adds it to the groups of its pattern. -/
theorem understood_byGenerator {n : Note} {kind : StatementKind} {pattern : BodyPatterns → Pattern}
    {key : String} (hhandler : builtinHandlers.get? n.handlerName = some (.byGenerator kind pattern key))
    {groups : Captures} (hcaptures : (pattern defaultBodyPatterns).captures n.body = some groups)
    {texts : List (String × String)}
    (hgroups : BodyPatterns.groupsOf (pattern defaultBodyPatterns) groups = texts)
    (htexts : ∀ generator caller, (texts.foldl (BodyPatterns.takeGroup defaultBodyPatterns.paramSyntax)
      { kind := kind }).setAttribute key generator = n.description generator caller) : n.Understood := by
  intro stamp stack
  rw [construct_category n _ hhandler]
  simp only [Handler.byGenerator, Handler.ofStatement, Stamp.fieldsOf]
  rw [capture_of_groups hcaptures hgroups, Option.map_some, htexts]

/-- The groups of a message. -/
theorem exists_groups_message (keyword : List Char) (hkeyword : ∀ c ∈ keyword.head?, isBlank c = false)
    (hne : keyword ≠ []) (peer : String) (hpeer : peer ∉ ["message", "params"]) (message entity : Word)
    (params : List PlainParam) :
    ∃ groups, (DefaultPattern.message keyword peer).captures (message.chars ++ inParentheses params ++
        (' ' :: (keyword ++ [' '])) ++ entity.chars) = some groups ∧
      BodyPatterns.groupsOf (DefaultPattern.message keyword peer) groups =
        [("message", message.text), ("params", (arguments params).text), (peer, entity.text)] := by
  obtain ⟨groups, hcaptures, hmessage, hparams, hentity⟩ :=
    DefaultPattern.captures_message hkeyword hne hpeer message entity (arguments params)
  refine ⟨groups, by simpa [inParentheses, arguments] using hcaptures, ?_⟩
  have hnames : (DefaultPattern.message keyword peer).groupNames = ["message", "params", peer] := rfl
  simp [BodyPatterns.groupsOf, hnames, hmessage, hparams, hentity]

section Kinds

variable (params : List PlainParam)

theorem understood_received (message source : Word) : (received message params source).Understood := by
  obtain ⟨groups, hcaptures, hgroups⟩ := exists_groups_message ['f', 'r', 'o', 'm']
    (by simp; decide) (by decide) "source" (by decide) message source params
  refine understood_byGenerator rfl hcaptures hgroups fun generator caller => ?_
  rw [description, Note.params, ← read_arguments]
  rfl

theorem understood_sent (message destination : Word) : (sent message params destination).Understood := by
  obtain ⟨groups, hcaptures, hgroups⟩ := exists_groups_message ['t', 'o']
    (by simp; decide) (by decide) "destination" (by decide) message destination params
  refine understood_byGenerator rfl hcaptures hgroups fun generator caller => ?_
  rw [description, Note.params, ← read_arguments]
  rfl

theorem understood_created (entity : Word) : (created entity params).Understood := by
  obtain ⟨groups, hcaptures, hentity, hparams⟩ := DefaultPattern.captures_create entity (arguments params)
  have hgroups : BodyPatterns.groupsOf DefaultPattern.create groups =
      [("created", entity.text), ("params", (arguments params).text)] := by
    have hnames : DefaultPattern.create.groupNames = ["created", "params"] := rfl
    simp [BodyPatterns.groupsOf, hnames, hentity, hparams]
  refine understood_byGenerator rfl hcaptures hgroups fun generator caller => ?_
  rw [description, Note.params, ← read_arguments]
  rfl

theorem understood_deleted (entity : Word) : (deleted entity).Understood := by
  obtain ⟨groups, hcaptures, hentity⟩ := DefaultPattern.captures_word "deleted" entity
  have hgroups : BodyPatterns.groupsOf DefaultPattern.delete groups = [("deleted", entity.text)] := by
    have hnames : DefaultPattern.delete.groupNames = ["deleted"] := rfl
    simp [BodyPatterns.groupsOf, hnames, hentity]
  exact understood_byGenerator rfl hcaptures hgroups fun generator caller => rfl

theorem understood_called (callee : Callee) : (called callee params).Understood := by
  intro stamp stack
  have hcall : Handler.callStatement? defaultBodyPatterns
      (stamp.fieldsOf (called callee params).category (called callee params).body).body =
        some (callee.statement (arguments params)) := callee.callStatement?_written (arguments params)
  rw [construct_category _ .invoke rfl, Handler.invoke_of_some hcall, description, Note.params,
    ← read_arguments]
  cases callee <;> rfl

theorem understood_ofTimer (change : TimerChange) (name : Word) : (ofTimer change name).Understood := by
  intro stamp stack
  obtain ⟨groups, hcaptures, hname⟩ := DefaultPattern.captures_word "timer" name
  rw [construct_category _ (.timer change.kind) (by cases change <;> rfl)]
  have hon : defaultBodyPatterns.timer.captures
      (stamp.fieldsOf (ofTimer change name).category (ofTimer change name).body).body.toList =
        some groups := by
    rw [Stamp.fieldsOf, String.toList_ofList]
    exact hcaptures
  simp only [Handler.timer, Handler.ofStatement]
  rw [hon, Option.map_some, hname]
  rfl

end Kinds

/-- The text of a phrase is not trimmed any further. -/
theorem trim_text (t : Phrase) : trim (String.ofList t.chars) = t.text := by
  rw [trim, String.toList_ofList, t.trimmed, Phrase.text]

theorem understood_ofEntity (change : EntityChange) (text : Phrase) :
    (ofEntity change text).Understood := by
  intro stamp stack
  rw [construct_category _ (.ofObject change.kind change.key) (by cases change <;> rfl)]
  simp only [Handler.ofObject, Handler.ofStatement, Stamp.fieldsOf, body]
  rw [trim_text]
  cases change <;> rfl

theorem understood_other (category : Word)
    (unmapped : ({} : Config).trace.mapping.get? category.text = none) (text : Phrase) :
    (other category unmapped text).Understood := by
  intro stamp stack
  rw [construct_category _ .genericAction rfl]
  simp only [Handler.genericAction, Handler.ofStatement, Stamp.fieldsOf, body]
  rw [trim_text]
  rfl

/-- **What a note says is what the handler of its category makes of its body**, kind by kind. -/
theorem understood (n : Note) : n.Understood := by
  cases n with
  | received message params source => exact understood_received params message source
  | sent message params destination => exact understood_sent params message destination
  | called callee params => exact understood_called params callee
  | created entity params => exact understood_created params entity
  | deleted entity => exact understood_deleted entity
  | ofTimer change name => exact understood_ofTimer change name
  | ofEntity change text => exact understood_ofEntity change text
  | other category unmapped text => exact understood_other category unmapped text

/-! ## Reading notes -/

/-- A list of parameters is written on one line. -/
theorem newline_not_mem_inParentheses (params : List PlainParam) : '\n' ∉ inParentheses params := by
  have harguments : '\n' ∉ PlainParam.writtenList params := (arguments params).newline_not_mem
  simp [inParentheses, harguments]

/-- A note is written on one line. -/
theorem newline_not_mem_body (n : Note) : '\n' ∉ n.body := by
  cases n with
  | called callee params => cases callee <;>
      simp [body, Callee.written, Word.newline_not_mem, newline_not_mem_inParentheses]
  | ofEntity change text => exact text.newline_not_mem
  | other category unmapped text => exact text.newline_not_mem
  | _ => simp [body, Word.newline_not_mem, newline_not_mem_inParentheses]

/-- A note does not begin with white space. -/
theorem isBlank_head?_body (n : Note) : ∀ c ∈ n.body.head?, isBlank c = false := by
  have hword : ∀ (w : Word) (rest : List Char), ∀ c ∈ (w.chars ++ rest).head?, isBlank c = false :=
    fun w rest => DefaultPattern.isBlank_head?_of_word (List.prefix_append _ _)
  cases n with
  | called callee params =>
    exact DefaultPattern.isBlank_head?_of_word
      (callee.entity_isPrefix_written.trans (List.prefix_append _ _))
  | ofEntity change text => exact isBlank_head?_of_trimmed text.trimmed
  | other category unmapped text => exact isBlank_head?_of_trimmed text.trimmed
  | received message params source =>
    simp only [body, List.append_assoc]
    exact hword message _
  | sent message params destination =>
    simp only [body, List.append_assoc]
    exact hword message _
  | created entity params => exact hword entity _
  | deleted entity => simpa [body] using hword entity []
  | ofTimer change name => simpa [body] using hword name []

/-- The line of a note makes the statement that is meant. -/
theorem completed_eq (n : Note) (stamp : Stamp) (stack : CallStack) :
    defaultReader.completed stack (n.line stamp) = some (n.statement stamp stack.caller) := by
  rw [line, completed_line stamp n.category n.newline_not_mem_body n.isBlank_head?_body,
    n.understood stamp stack, Option.map_some, complete_description]

end Note

/-! ## Messages at both ends -/

/-- What a statement says about a message. -/
structure Transfer where
  /-- The message. -/
  message : Option String
  /-- Who sends it. -/
  source : Option String
  /-- Who receives it. -/
  destination : Option String
  /-- What is sent along. -/
  params : Option (List Param)
  deriving DecidableEq, Repr

/-- What a statement says about a message. -/
def Statement.transfer (s : Statement) : Transfer :=
  ⟨s.value? "message", s.value? "source", s.value? "destination", s.params⟩

/-- A word as the text between two brackets. -/
def Word.inBrackets (w : Word) : Inline ']' where
  chars := w.chars
  mark_not_mem := w.not_mem (by decide)
  newline_not_mem := w.newline_not_mem

/-- The stamp with an entity as the one that writes the line. -/
def Stamp.writtenBy (s : Stamp) (entity : Word) : Stamp := { s with generator := entity.inBrackets }

section Transfers

variable (stamp : Stamp) (message sender receiver : Word) (params : List PlainParam) (caller : String)

/-- The sender notes the whole message. -/
theorem Note.transfer_sent :
    ((sent message params receiver).statement (stamp.writtenBy sender) caller).transfer =
      ⟨some message.text, some sender.text, some receiver.text, some (params.map PlainParam.param)⟩ := rfl

/-- The receiver notes the whole message. -/
theorem Note.transfer_received :
    ((received message params sender).statement (stamp.writtenBy receiver) caller).transfer =
      ⟨some message.text, some sender.text, some receiver.text, some (params.map PlainParam.param)⟩ := rfl

end Transfers

/-- **What is noted in a log is what a trace says**: reading the line of a note, in any state, appends the
statement that is meant, and no other, by the handler that the mapping names. What one entity notes of a
message that it sends, and what another one notes when it receives it, is the same. -/
theorem statements_step_note : ∃ r, TraceReader.ofConfig {} = .ok r ∧
    (∀ (n : Note) (stamp : Stamp) (state : TraceState),
      r.rules.handlerName n.category.text = n.handlerName ∧
      (r.step state (n.line stamp)).1.parsed.statements =
        state.parsed.statements ++ [n.statement stamp state.stack.caller]) ∧
    ∀ (message sender receiver : Word) (params : List PlainParam) (stamp stamp' : Stamp)
      (state state' : TraceState), ∃ s s',
      (r.step state ((Note.sent message params receiver).line (stamp.writtenBy sender))).1.parsed.statements =
        state.parsed.statements ++ [s] ∧
      (r.step state' ((Note.received message params sender).line
        (stamp'.writtenBy receiver))).1.parsed.statements = state'.parsed.statements ++ [s'] ∧
      s.transfer = s'.transfer ∧
      s.transfer = ⟨some message.text, some sender.text, some receiver.text,
        some (params.map PlainParam.param)⟩ := by
  have hstep : ∀ (n : Note) (stamp : Stamp) (state : TraceState),
      (defaultReader.step state (n.line stamp)).1.parsed.statements =
        state.parsed.statements ++ [n.statement stamp state.stack.caller] := by
    intro n stamp state
    rw [TraceReader.step_fst, ParsedTrace.statements_storeAny, n.completed_eq, Option.toList_some]
  refine ⟨defaultReader, ofConfig_default,
    fun n stamp state => ⟨n.handlerName_category, hstep n stamp state⟩, ?_⟩
  intro message sender receiver params stamp stamp' state state'
  refine ⟨_, _, hstep _ _ _, hstep _ _ _, ?_, Note.transfer_sent ..⟩
  rw [Note.transfer_sent, Note.transfer_received]

end TraceDiagram
