import FormRules.Json.Number
import FormRules.Json.Reader
import FormRules.Path
import FormRules.Toml.Reader
import FormRules.Toml.Shape
import FormRules.Value

/-!
# Data files

A data file holds a record.  It is a TOML document if the extension of its path
is `toml`, and a JSON text otherwise.

* A JSON file is an object of strings, numbers and nulls.  A repeated name keeps
  its first place and its last value, but every value has to be one of these.
* A TOML file has strings and numbers only.  An integer is one that 64 bits hold,
  with or without a sign.
* Numbers beyond the finite ones can only be written in TOML, by name.
-/

namespace FormRules

/-- The format of a data file. -/
inductive DataFormat where
  | json
  | toml
deriving DecidableEq, Repr

/-- A text that is not a record in a format. -/
structure DataError where
  /-- The format in which the text was read. -/
  format : DataFormat
deriving DecidableEq, Repr

/-- The error in words. -/
def DataError.message (e : DataError) : String :=
  match e.format with
  | .json => "Failed to parse JSON data"
  | .toml => "Failed to parse TOML data"

namespace Value

/-- The value that a JSON value stands for. -/
def ofJson? : Json → Option Value
  | .string s => some (.text s)
  | .null => some .missing
  | .number n => n |> Json.toNumber? |>.map .number
  | _ => none

/-- Whether an integer fits into 64 bits, with or without a sign. -/
def fits (n : Int) : Bool := -(Nat.pow 2 63 : Nat) ≤ n && n < (Nat.pow 2 64 : Nat)

/-- The value that a TOML value stands for. -/
def ofToml? : Toml → Option Value
  | .string s => some (.text s)
  | .integer n => if fits n then some (.number (.ofInt n)) else none
  | .float x => some (.number x)
  | _ => none

end Value

namespace DataFormat

/-- The format of the file at a path. -/
def ofPath (p : Path) : DataFormat :=
  if p.extension? = some ['t', 'o', 'm', 'l'] then .toml else .json

/-- The record that a list of entries writes, if each of its values is one of a record. -/
def recordOf? {α : Type} (read : α → Option Value) (entries : List (String × α)) : Option Record :=
  (entries.mapM fun e => (read e.2).map fun v => (e.1, v)).map .ofList

/-- The record that a text writes in a format. -/
def record? : DataFormat → String → Option Record
  | .json, text => ((Json.read? text).bind Json.members?).bind (recordOf? Value.ofJson?)
  | .toml, text => (Toml.read? text).bind (recordOf? Value.ofToml?)

/-- The record that a text writes in a format, or that there is none. -/
def parse (format : DataFormat) (text : String) : Except DataError Record :=
  match format.record? text with
  | some record => .ok record
  | none => .error ⟨format⟩

end DataFormat

end FormRules
