import FormRules.Number.Decimal

/-!
# The shortest decimal of a number

The real numbers that round to a number of double precision form an interval
around it.  Each end lies half way to the neighbour, and belongs to the interval
if the number has an even count of spacings, since half ways go to the even
one.  Below a power of two the neighbour is half as far.

A number is written with as few digits as tell it apart: with the coarsest power
of ten that has a multiple in the interval.  If a multiple lies there, one of the
two multiples next to the number does.  Of two the nearer is taken, and half way
the larger.

All of this is integer arithmetic, in quarters of a unit.
-/

namespace FormRules.Number

/-! ## The interval -/

/-- An interval around a positive number, in quarters of a unit. -/
structure Interval where
  /-- The lower end. -/
  low : Nat
  /-- The number itself. -/
  middle : Nat
  /-- The upper end. -/
  high : Nat
  /-- Whether the ends belong to the interval. -/
  closed : Bool
deriving DecidableEq, Repr

/-- What rounds to a count of units. -/
def interval (units : Nat) : Interval :=
  let step := spacing units
  let below := if step > 1 ∧ units = Nat.pow 2 units.log2 then step else 2 * step
  { low := 4 * units - below
    middle := 4 * units
    high := 4 * units + 2 * step
    closed := units / step % 2 = 0 }

/-- Whether `num / den` quarters lie in the interval. -/
def Interval.holds (i : Interval) (num den : Nat) : Bool :=
  if i.closed then i.low * den ≤ num && num ≤ i.high * den
  else i.low * den < num && num < i.high * den

/-! ## The search -/

/-- The multiple of `10 ^ power` to write for a number, if one lies in the interval. -/
def multiple? (i : Interval) (power : Int) : Option Nat :=
  let up := 4 * one * Nat.pow 10 power.toNat
  let down := Nat.pow 10 (-power).toNat
  let below := i.middle * down / up
  let above := below + 1
  match i.holds (below * up) down, i.holds (above * up) down with
  | true, true => some (if 2 * (i.middle * down) < (below + above) * up then below else above)
  | true, false => some below
  | false, true => some above
  | false, false => none

/-- The first power of ten with a multiple to write, from a power downwards. -/
def searchDown (i : Interval) : Nat → Int → Decimal
  | 0, power => ⟨false, 0, power⟩
  | fuel + 1, power =>
    match multiple? i power with
    | some c => ⟨false, c, power⟩
    | none => searchDown i fuel (power - 1)

/-- The shortest decimal of a positive count of units.  The search starts above the number, and
ends at the latest with the exact value of the least positive number. -/
def shortest (units : Nat) : Decimal :=
  let start := (units.log2 - onePlace) / 3 + 1
  searchDown (interval units) (start + 1100) start

end FormRules.Number
