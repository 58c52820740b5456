/-! # Values of configuration files

* **`Toml`** a value: a text, a number, a truth value, a point in time, a list or a table.
* **`Toml.text?`**, **`Toml.flag?`**, **`Toml.texts?`**, **`Toml.pairs?`** what a value is read as.
-/

namespace TraceDiagram

/-- A value of a configuration file. -/
inductive Toml where
  /-- A text. -/
  | text (value : String)
  /-- A whole number. -/
  | int (value : Int)
  /-- A number with a fractional part. -/
  | float (value : Float)
  /-- A truth value. -/
  | flag (value : Bool)
  /-- A day, a time of day or both, as it is written. -/
  | time (written : String)
  /-- A list of values. -/
  | list (items : List Toml)
  /-- Values by key. -/
  | table (pairs : List (String × Toml))
  deriving Inhabited

namespace Toml

/-- The text that the value is. -/
def text? : Toml → Option String
  | .text s => some s
  | _ => none

/-- The truth value that the value is. -/
def flag? : Toml → Option Bool
  | .flag b => some b
  | _ => none

/-- The texts that the value lists. -/
def texts? : Toml → Option (List String)
  | .list items => items.mapM text?
  | _ => none

/-- The key under which a point in time stands where a table is expected. -/
def timeKey : String := "$__toml_private_datetime"

/-- The values by key. A point in time counts as a table of one text. -/
def pairs? : Toml → Option (List (String × Toml))
  | .table pairs => some pairs
  | .time written => some [(timeKey, .text written)]
  | _ => none

/-- The texts by key. -/
def textPairs? (v : Toml) : Option (List (String × String)) := do
  (← v.pairs?).mapM fun p => p.2.text?.map (p.1, ·)

end Toml

end TraceDiagram
