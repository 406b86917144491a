import FormRules.Text.Separated

/-!
# Tokens of a rule expression

An expression such as `required|between:18,30` is cut into tokens.

* A bar ends a segment.  Every segment has a name, which may be empty.
* The first colon of a segment ends its name.  What follows is cut at every
  comma into arguments, at least one, which may be empty.
* There is no escape and no white space to skip.

The empty expression has no tokens, while any other has as many names as it has
segments.
-/

namespace FormRules

/-- A name or an argument. -/
inductive Token where
  /-- The name of a validator, which starts a segment. -/
  | name (text : String)
  /-- An argument of the name before it. -/
  | argument (text : String)
deriving DecidableEq, Repr

namespace Token

/-- What separates segments. -/
def bar : Char := '|'

/-- What separates a name from its arguments. -/
def colon : Char := ':'

/-- What separates arguments. -/
def comma : Char := ','

/-- The tokens of one segment. -/
def ofSegment (segment : List Char) : List Token :=
  match Text.splitFirst? colon segment with
  | none => [.name (String.ofList segment)]
  | some (n, args) =>
    .name (String.ofList n) ::
      (Text.split comma args).map fun a => .argument (String.ofList a)

/-- The tokens of an expression. -/
def ofExpression (expression : String) : List Token :=
  match expression.toList with
  | [] => []
  | cs => (Text.split bar cs).flatMap ofSegment

end Token

end FormRules
