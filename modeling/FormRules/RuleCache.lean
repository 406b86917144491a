import FormRules.Log
import FormRules.Rule.RuleSet

/-!
# The cache of parsed rules

Rules are read again only if they may have changed.  Expressions are therefore
*shared*: they carry an identity, and the cache remembers the shared expressions
that it read last.

* The same shared expressions are not read again.
* Shared expressions with another identity are, even if they say the same.

Every rule set that is read has a serial number, the number of readings up to
it, which tells it from those read before.
-/

namespace FormRules

/-- The expressions of a form with an identity of their own. -/
structure SharedExpressions where
  /-- What tells these expressions from others that say the same. -/
  identity : Nat
  /-- The expressions. -/
  content : Expressions
deriving DecidableEq

/-- A rule set that was read from expressions. -/
structure ParsedRules where
  /-- The number of readings up to this one. -/
  serial : Nat
  /-- The rule set. -/
  rules : RuleSet
deriving DecidableEq

/-- The expressions that were read last, and the rule set they gave. -/
structure RuleCache where
  /-- The expressions that were read last. -/
  source : Option SharedExpressions
  /-- The rule set they gave. -/
  parsed : ParsedRules
  /-- The number of readings. -/
  parses : Nat
deriving DecidableEq

namespace RuleCache

/-- The cache in which nothing has been read. -/
def empty : RuleCache := ⟨none, ⟨0, .empty⟩, 0⟩

/-- Whether the expressions are those that were read last, by their identity. -/
def holds (c : RuleCache) (shared : SharedExpressions) : Bool :=
  c.source.any fun source => source.identity == shared.identity

/-- The cache after it was asked for the rule set of expressions, which is then `parsed`. -/
def fetch (c : RuleCache) (shared : SharedExpressions) : RuleCache :=
  if c.holds shared then c
  else ⟨some shared, ⟨c.parses + 1, shared.content.parsed⟩, c.parses + 1⟩

/-- What asking for the rule set of expressions logs. -/
def fetchLog (c : RuleCache) (shared : SharedExpressions) : List Log.Entry :=
  if c.holds shared then []
  else [⟨.debug, .cache,
    "Parsing rule set for " ++ toString shared.content.size ++ " fields"⟩]

end RuleCache

end FormRules
