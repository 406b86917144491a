import FormRules.Evaluation.Errors
import FormRules.Json.Writer
import FormRules.Rule.RuleSet

/-!
# Reports

A result is shown as text or as JSON.

* As text, every message is a line with its field in front, and the last line
  says `valid` or `invalid`.  There is no line break after it.
* As JSON, it is an object with a truth value `valid` and an object `errors`,
  which has a list of messages for every field.

A rule set has a JSON form as well.
-/

namespace FormRules

/-- How a result is shown. -/
inductive ReportFormat where
  | text
  | json
deriving DecidableEq, Repr

namespace Errors

/-- Every message with its field in front, in order. -/
def lines (e : Errors) : List String :=
  e.entries.flatMap fun entry => entry.2.map fun message => entry.1 ++ ": " ++ message

/-- The messages of every field as JSON. -/
def toJson (e : Errors) : Json := .object (e.entries.map fun entry => (entry.1, .strings entry.2))

end Errors

namespace Result

/-- The verdict in one word. -/
def verdict (r : Result) : String := if r.valid then "valid" else "invalid"

/-- The result as text. -/
def toText (r : Result) : String :=
  String.join (r.errors.lines.map (· ++ "\n")) ++ r.verdict

/-- The result as JSON. -/
def toJson (r : Result) : Json :=
  .object [("valid", .bool r.valid), ("errors", r.errors.toJson)]

/-- The result in a format. -/
def render (r : Result) : ReportFormat → String
  | .text => r.toText
  | .json => r.toJson.toPretty

end Result

/-- A rule as JSON. -/
def Rule.toJson (r : Rule) : Json := .object [("name", .string r.name), ("args", .strings r.args)]

/-- A rule set as JSON. -/
def RuleSet.toJson (ruleSet : RuleSet) : Json :=
  .object (ruleSet.entries.map fun e => (e.1, .array (e.2.map Rule.toJson)))

end FormRules
