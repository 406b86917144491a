import FormRules.Rule.Token

/-!
# Rules and chains

A *rule* asks for one validator by its name and gives it arguments.  The rules
of a field form a *chain*.  `Chain.ofTokens` groups tokens into a chain, and
`Chain.tokens` writes a chain as tokens.  `Chain.parse` reads an expression, and
`Chain.render` writes one.

Grouping drops the arguments in front of the first name, and only those.  No
expression has any.
-/

namespace FormRules

/-- A validator by its name, with arguments. -/
structure Rule where
  /-- The name of the validator. -/
  name : String
  /-- The arguments, as they are written. -/
  args : List String
deriving DecidableEq, Repr

/-- The rules of a field, in the order in which they are written. -/
abbrev Chain := List Rule

namespace Rule

/-- The tokens that a rule is read from. -/
def tokens (r : Rule) : List Token := .name r.name :: r.args.map .argument

/-- The segment that a rule is read from. -/
def render (r : Rule) : List Char :=
  if r.args.isEmpty then r.name.toList
  else r.name.toList ++ Token.colon :: Text.join Token.comma (r.args.map String.toList)

end Rule

namespace Chain

/-- A token read in front of a chain.  The first component holds the arguments that still wait for
their name. -/
def push : Token → List String × Chain → List String × Chain
  | .argument a, (waiting, chain) => (a :: waiting, chain)
  | .name n, (waiting, chain) => ([], ⟨n, waiting⟩ :: chain)

/-- Tokens grouped into rules, each name with the arguments that follow it. -/
def ofTokens (tokens : List Token) : Chain := (tokens.foldr push ([], [])).2

/-- The tokens that a chain is grouped from. -/
def tokens (chain : Chain) : List Token := chain.flatMap Rule.tokens

/-- The chain that an expression writes. -/
def parse (expression : String) : Chain := ofTokens (Token.ofExpression expression)

/-- The expression of a chain. -/
def render (chain : Chain) : String :=
  String.ofList (Text.join Token.bar (chain.map Rule.render))

end Chain

end FormRules
