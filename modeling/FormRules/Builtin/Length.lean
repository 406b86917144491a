import FormRules.Builtin.Bound
import FormRules.Validator

/-!
# Validators of length

* `required` asks for a length above zero.
* `min` and `max` compare the length with one bound, which it may reach.
* `between` compares it with two.

Every comparison is made in the form in which a bound that is not a number
fails.
-/

namespace FormRules.Builtin

/-- The arguments of a rule under names, as far as both go. -/
def named (names : List String) (args : List String) : List Template.Binding := names.zip args

/-- Whether a value is there: its length is above zero. -/
def isFilled (value : Value) : Bool := Number.zero < value.length

/-- Whether a length reaches the bound at a place among the arguments. -/
def atLeast (args : List String) (index : Nat) (length : Number) : Bool :=
  Bound.ofArgument args index ≤ length

/-- Whether a length does not exceed the bound at a place among the arguments. -/
def atMost (args : List String) (index : Nat) (length : Number) : Bool :=
  length ≤ Bound.ofArgument args index

/-- Something was entered. -/
def required : Validator where
  check value _ _ := isFilled value

/-- The length reaches the bound. -/
def min : Validator where
  check value args _ := atLeast args 0 value.length
  placeholders args _ := named ["min"] args

/-- The length does not exceed the bound. -/
def max : Validator where
  check value args _ := atMost args 0 value.length
  placeholders args _ := named ["max"] args

/-- The length is within two bounds. -/
def between : Validator where
  check value args _ := atLeast args 0 value.length && atMost args 1 value.length
  placeholders args _ := named ["min", "max"] args

end FormRules.Builtin
