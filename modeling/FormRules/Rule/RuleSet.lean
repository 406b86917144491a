import FormRules.OrderedMap
import FormRules.Rule.Chain

/-!
# Rule sets

A form gives every field an expression.  Reading them all gives the *rule set*,
which has the same fields in the same order with their chains.
-/

namespace FormRules

/-- The expression of every field, in order. -/
abbrev Expressions := OrderedMap String

/-- The chain of every field, in order. -/
abbrev RuleSet := OrderedMap Chain

namespace Expressions

/-- The chains that the expressions of a form write. -/
def parsed (expressions : Expressions) : RuleSet := expressions.mapValues Chain.parse

end Expressions

end FormRules
