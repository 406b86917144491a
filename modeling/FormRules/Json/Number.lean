import FormRules.Json

/-!
# The number of a JSON numeral

A numeral in a data file is read in double precision throughout, which is quick
and not always exact.

* The *significand* is the digits of the numeral from the left, as long as they
  make a whole number below `2⁶⁴`.  The digits after that are left out, but those
  before the point still count for the exponent.
* The significand is rounded to a number.  It is then multiplied by a power of
  ten, or divided by one, which is rounded too, and so is the outcome.
* The largest power is `10³⁰⁸`.  Beyond it, a numeral other than zero is too
  large, and towards zero it is divided more than once.

For up to 15 digits and powers up to `10²²` the outcome is the nearest number.
A numeral that comes out beyond the finite numbers has none.
-/

namespace FormRules.Json

/-- The largest significand. -/
def significandLimit : Nat := Nat.pow 2 64 - 1

/-- The largest exponent that may be written, unless the numeral then is zero. -/
def exponentLimit : Nat := Nat.pow 2 31 - 1

/-- The largest power of ten that is used at once. -/
def powerLimit : Nat := 308

/-- Adds digits to a significand as long as it stays within its limit.  The second component has the
digits that are left. -/
def extend (significand : Nat) : List Char → Nat × List Char
  | [] => (significand, [])
  | c :: rest =>
    let next := 10 * significand + Text.digitValue c
    if next ≤ significandLimit then extend next rest else (significand, c :: rest)

/-- The count of units of a power of ten, rounded. -/
def powerUnits (power : Nat) : Nat := Number.nearest (Nat.pow 10 power) 1

/-- A number of units divided by a power of ten, step by step. -/
def dividePower (units power : Nat) : Nat :=
  if units = 0 then 0
  else if _h : power ≤ powerLimit then Number.nearest units (powerUnits power)
  else dividePower (Number.nearest units (powerUnits powerLimit)) (power - powerLimit)
termination_by power
decreasing_by
  have : 0 < powerLimit := by decide
  omega

/-- A number of units multiplied by a power of ten, if that is a finite number. -/
def multiplyPower? (units power : Nat) : Option Nat :=
  if power ≤ powerLimit then
    Number.nearest? (units * powerUnits power) (Number.one * Number.one)
  else if units = 0 then some 0
  else none

/-- The count of units of `significand · 10 ^ power`, if that is a finite number. -/
def scale? (significand : Nat) (power : Int) : Option Nat :=
  let units := Number.nearest significand 1
  if 0 ≤ power then multiplyPower? units power.toNat
  else some (dividePower units (-power).toNat)

/-- The number of a numeral, if it is finite. -/
def toNumber? (n : Numeral) : Option Number :=
  let (whole, dropped) := extend 0 n.whole
  let fraction := n.fraction.getD []
  let (significand, left) := extend whole fraction
  let places : Int := (dropped.length : Int) - ((fraction.length - left.length : Nat) : Int)
  let negative := n.sign = some '-'
  let exponent := Text.digitsValue ((n.exponent.map Prod.snd).getD [])
  let small := n.exponent.any fun e => e.1 == some '-'
  if exponent ≤ exponentLimit then
    (scale? significand (if small then places - exponent else places + exponent)).map
      (.finite negative)
  else if significand ≠ 0 ∧ !small then none
  else some (.finite negative 0)

end FormRules.Json
