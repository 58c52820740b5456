import TraceDiagram.Config
import TraceDiagram.Toml.Reader
import TraceDiagram.Toml.Writer

/-! # Configuration files

A file may leave out any section and any field; what is left out keeps its default. What the file gives
replaces the default as a whole, and keys without a meaning are passed over.

* **`Field`** a part of a structure with its name in files.
* **`Field.readAll`**, **`Field.writeAll`** from and to values of files.
* **`Config.read?`**, **`Config.write`** from and to the text of a file.
-/

namespace TraceDiagram

/-- A part of a structure, with its name in files. -/
structure Field (σ : Type) where
  /-- The name. -/
  name : String
  /-- Its value, unless it is left out. -/
  write : σ → Option Toml
  /-- Sets it, if the value is of the right kind. -/
  read : Toml → σ → Option σ

namespace Field

variable {σ τ : Type}

/-- The fields with their names, except those that are left out. -/
def writeAll (fields : List (Field σ)) (s : σ) : List (String × Toml) :=
  fields.filterMap fun f => (f.write s).map (f.name, ·)

/-- Sets the fields that a table names. -/
def readNamed (fields : List (Field σ)) (pairs : List (String × Toml)) (s : σ) : Option σ :=
  fields.foldlM (fun s f => match pairs.lookup f.name with
    | some v => f.read v s
    | none => some s) s

/-- Sets the fields in order, as far as a list goes. -/
def readInOrder (fields : List (Field σ)) (items : List Toml) (s : σ) : Option σ :=
  (fields.zip items).foldlM (fun s p => p.1.read p.2 s) s

/-- Sets the fields that a table names, or as many as a list gives. -/
def readAll (fields : List (Field σ)) (v : Toml) (s : σ) : Option σ :=
  match v with
  | .list items => readInOrder fields items s
  | v => v.pairs?.bind fun pairs => readNamed fields pairs s

/-- A text. -/
def text (name : String) (get : σ → String) (set : String → σ → σ) : Field σ where
  name := name
  write s := some (.text (get s))
  read v s := v.text?.map fun t => set t s

/-- A text that may be missing. -/
def optionalText (name : String) (get : σ → Option String) (set : Option String → σ → σ) :
    Field σ where
  name := name
  write s := (get s).map .text
  read v s := v.text?.map fun t => set (some t) s

/-- A truth value. -/
def flag (name : String) (get : σ → Bool) (set : Bool → σ → σ) : Field σ where
  name := name
  write s := some (.flag (get s))
  read v s := v.flag?.map fun b => set b s

/-- A list of texts. -/
def texts (name : String) (get : σ → List String) (set : List String → σ → σ) : Field σ where
  name := name
  write s := some (.list ((get s).map .text))
  read v s := v.texts?.map fun ts => set ts s

/-- Texts by key, in order. -/
def textTable (name : String) (get : σ → Dict String String) (set : Dict String String → σ → σ) :
    Field σ where
  name := name
  write s := some (.table ((get s).entries.map fun p => (p.1, .text p.2)))
  read v s := v.textPairs?.map fun ps => set (Dict.ofList ps) s

/-- A structure with fields of its own. -/
def record (name : String) (fields : List (Field τ)) (get : σ → τ) (set : τ → σ → σ) :
    Field σ where
  name := name
  write s := some (.table (writeAll fields (get s)))
  read v s := (readAll fields v (get s)).map fun t => set t s

end Field

namespace Config

open TraceDiagram.Field

/-- How the lines of a trace are read. -/
def traceFields : List (Field Config.Trace) := [
  text "line_regex" (·.linePattern) fun v s => { s with linePattern := v },
  text "traced_entity" (·.tracedEntity) fun v s => { s with tracedEntity := v },
  text "default_handler" (·.defaultHandler) fun v s => { s with defaultHandler := v },
  text "scope_marker" (·.scopeMarker) fun v s => { s with scopeMarker := v },
  textTable "mapping" (·.mapping) fun v s => { s with mapping := v }]

/-- The patterns for the bodies of lines. -/
def patternFields : List (Field Config.Patterns) := [
  text "message_receive" (·.messageReceive) fun v s => { s with messageReceive := v },
  text "message_send" (·.messageSend) fun v s => { s with messageSend := v },
  text "method_invoke" (·.methodInvoke) fun v s => { s with methodInvoke := v },
  text "function_invoke" (·.functionInvoke) fun v s => { s with functionInvoke := v },
  text "method_return" (·.methodReturn) fun v s => { s with methodReturn := v },
  text "create" (·.create) fun v s => { s with create := v },
  text "delete" (·.delete) fun v s => { s with delete := v },
  text "timer" (·.timer) fun v s => { s with timer := v }]

/-- The templates for the text of a diagram. -/
def templateFields : List (Field Config.Templates) := [
  text "message" (·.message) fun v s => { s with message := v },
  text "invoke" (·.invoke) fun v s => { s with invoke := v },
  text "method_return" (·.methodReturn) fun v s => { s with methodReturn := v },
  text "create" (·.create) fun v s => { s with create := v },
  text "delete" (·.delete) fun v s => { s with delete := v },
  text "state_change" (·.stateChange) fun v s => { s with stateChange := v },
  text "start_timer" (·.startTimer) fun v s => { s with startTimer := v },
  text "stop_timer" (·.stopTimer) fun v s => { s with stopTimer := v },
  text "expired_timer" (·.expiredTimer) fun v s => { s with expiredTimer := v },
  text "allocate" (·.allocate) fun v s => { s with allocate := v },
  text "free" (·.free) fun v s => { s with free := v },
  text "begin_action" (·.beginAction) fun v s => { s with beginAction := v },
  text "end_action" (·.endAction) fun v s => { s with endAction := v },
  text "action" (·.action) fun v s => { s with action := v },
  text "param" (·.param) fun v s => { s with param := v },
  text "bookmark" (·.bookmark) fun v s => { s with bookmark := v },
  text "remark" (·.remark) fun v s => { s with remark := v }]

/-- How a diagram is laid out. -/
def formatFields : List (Field Config.Format) := [
  text "indent" (·.indent) fun v s => { s with indent := v },
  text "attribute_value_separator" (·.attributeValueSeparator) fun v s =>
    { s with attributeValueSeparator := v },
  text "pair_separator" (·.pairSeparator) fun v s => { s with pairSeparator := v },
  texts "bookmarks" (·.bookmarks.items) fun v s => { s with bookmarks := TextSet.ofList v },
  optionalText "theme" (·.theme) fun v s => { s with theme := v },
  text "feature_title" (·.featureTitle) fun v s => { s with featureTitle := v },
  text "default_group" (·.defaultGroup) fun v s => { s with defaultGroup := v }]

/-- How entities are grouped. -/
def entityFields : List (Field Config.Entities) := [
  textTable "parents" (·.parents) fun v s => { s with parents := v }]

/-- Where files are written. -/
def outputFields : List (Field Config.Output) := [
  text "document" (·.document) fun v s => { s with document := v },
  text "project_file" (·.projectFile) fun v s => { s with projectFile := v }]

/-- How the diagram is drawn. -/
def rendererFields : List (Field Config.Renderer) := [
  flag "enabled" (·.enabled) fun v s => { s with enabled := v },
  optionalText "executable" (·.executable) fun v s => { s with executable := v },
  optionalText "extensions_dir" (·.extensionsDir) fun v s => { s with extensionsDir := v },
  texts "args" (·.args) fun v s => { s with args := v }]

/-- All settings. -/
def fields : List (Field Config) := [
  record "trace" traceFields (·.trace) fun v s => { s with trace := v },
  record "patterns" patternFields (·.patterns) fun v s => { s with patterns := v },
  record "templates" templateFields (·.templates) fun v s => { s with templates := v },
  record "format" formatFields (·.format) fun v s => { s with format := v },
  record "entities" entityFields (·.entities) fun v s => { s with entities := v },
  record "output" outputFields (·.output) fun v s => { s with output := v },
  record "renderer" rendererFields (·.renderer) fun v s => { s with renderer := v }]

/-- Reads the text of a file. -/
def read? (text : String) : Option Config := do
  let pairs ← Toml.read? text
  readAll fields (.table pairs) {}

/-- The text of a file with all settings. -/
def write (c : Config) : String := Toml.write (writeAll fields c)

end Config

end TraceDiagram
