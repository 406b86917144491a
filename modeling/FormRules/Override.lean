import FormRules.OrderedMap

/-!
# Message overrides

The author of a form may replace messages.  Every entry of the overrides has one
of two roles, by its kind.

* A *text* under the name of a validator is the message of that validator in
  every field.
* A *table* under the name of a field has the messages of that field, by
  validator.

A message for the field wins over a message for all fields.  Fields and
validators share their names, but an entry has only the role of its kind.
-/

namespace FormRules

/-- An entry of the overrides. -/
inductive Override where
  /-- The message of a validator in every field. -/
  | everywhere (message : String)
  /-- The messages of a field, by validator. -/
  | inField (messages : OrderedMap String)
deriving DecidableEq

/-- The overrides of a form, by the name of a validator or of a field. -/
abbrev Overrides := OrderedMap Override

namespace Override

/-- Whether two entries say the same.  The order within a table does not matter. -/
def same : Override → Override → Bool
  | .everywhere a, .everywhere b => a == b
  | .inField a, .inField b => a.sameEntries (· == ·) b
  | _, _ => false

/-- The message of a table for a validator. -/
def inField? (validator : String) : Override → Option String
  | .inField messages => messages.get? validator
  | .everywhere _ => none

/-- The message for every field. -/
def everywhere? : Override → Option String
  | .everywhere message => some message
  | .inField _ => none

end Override

namespace Overrides

/-- The overriding message for a validator in a field, if there is one. -/
def lookup (overrides : Overrides) (field validator : String) : Option String :=
  ((overrides.get? field).bind (Override.inField? validator)).or
    ((overrides.get? validator).bind Override.everywhere?)

/-- Whether two override maps say the same.  Order does not matter. -/
def same (a b : Overrides) : Bool := a.sameEntries Override.same b

end Overrides

end FormRules
