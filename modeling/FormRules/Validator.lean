import FormRules.Template
import FormRules.Value

/-!
# Validators

A validator decides whether a value passes.  It is given the normalized value of
its field, the arguments of the rule, and the record as it was entered, since
some validators depend on other fields.  It also names the parts of the rule that
a message may show.

An *outcome* is what one run of a registered validator gives: the verdict, the
template of the message, and the bindings for it.  The name `field` always
stands for the field, since it is bound first.
-/

namespace FormRules

/-- A check of one value. -/
structure Validator where
  /-- Whether the value passes, given the arguments and the record. -/
  check : Value → List String → Record → Bool
  /-- The parts of the rule that a message may show. -/
  placeholders : List String → Record → List Template.Binding := fun _ _ => []

/-- What a run of a validator gives. -/
structure Outcome where
  /-- Whether the value passed. -/
  passed : Bool
  /-- The template of the message. -/
  template : String
  /-- The parts of the rule that the message may show. -/
  params : List Template.Binding
deriving DecidableEq

namespace Outcome

/-- What the placeholders of a message stand for. -/
def bindings (o : Outcome) (field : String) : List Template.Binding := ("field", field) :: o.params

/-- The message of the validator's own template. -/
def message (o : Outcome) (field : String) : String := Template.fill o.template (o.bindings field)

end Outcome

/-- A validator under its name, with the template of its message. -/
structure Registered where
  /-- The name. -/
  name : String
  /-- The check. -/
  validator : Validator
  /-- The template of its message. -/
  template : String

namespace Registered

/-- A run on a value. -/
def run (r : Registered) (value : Value) (args : List String) (record : Record) : Outcome where
  passed := r.validator.check value args record
  template := r.template
  params := r.validator.placeholders args record

/-- The name and the template, for inspection. -/
def detail (r : Registered) : String :=
  "RegisteredValidator \x7b name: " ++ Text.quote r.name ++ ", message: " ++
    Text.quote r.template ++ ", .. \x7d"

end Registered

end FormRules
