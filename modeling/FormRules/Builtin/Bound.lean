import FormRules.Number.Decimal

/-!
# Bounds

A rule argument that should be a number is read leniently: white space at its
front is skipped, and the longest numeral there is its value, whatever follows.
So `18px` is 18.

The numeral is looked for with decimal digits of any script.  If it then holds a
digit that is not ASCII it has no value, even where a shorter numeral would have
one.  An argument without a value, and one that is not there, is not a number.
No length is on either side of such a bound.
-/

namespace FormRules.Bound

/-- The number at the front of an argument. -/
def ofText (s : List Char) : Number :=
  match Numeral.scan Text.isDecimal (Text.trimStart s) with
  | none => .nan
  | some (numeral, _) =>
    if numeral.isAscii then (Decimal.ofNumeral numeral).toNumber else .nan

/-- The bound at a place among the arguments. -/
def ofArgument (args : List String) (index : Nat) : Number :=
  (args[index]?).elim .nan fun a => ofText a.toList

end FormRules.Bound
