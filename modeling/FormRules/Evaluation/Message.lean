import FormRules.Override
import FormRules.Validator

/-!
# The message of a failure

The message of a failed rule is filled from an override if there is one, and
otherwise from the template of the validator.  Both may show the parts of the
rule.
-/

namespace FormRules.Outcome

/-- The message of an outcome in a field, for a rule that names the validator. -/
def resolve (o : Outcome) (field validator : String) (overrides : Overrides) : String :=
  Template.fill ((overrides.lookup field validator).getD o.template) (o.bindings field)

end FormRules.Outcome
