/-!
# Numbers

Form values, lengths and bounds are numbers in double precision.  Every finite
number of that kind is a whole multiple of `2⁻¹⁰⁷⁴`, the least positive one, so
a finite number is a sign and a count of these *units*.  Two finite numbers are
then compared by comparing integers, and each number has one form.

* Not-a-number is comparable with nothing, itself included.
* The two zeros are different numbers and compare as equal.
* The infinities lie outside all finite numbers.

Which counts are numbers of double precision is a matter of rounding
(`FormRules.Number.Rounding`).  The order does not depend on it.
-/

namespace FormRules

/-- A number of double precision. -/
inductive Number where
  /-- Not a number. -/
  | nan
  /-- An infinity. -/
  | infinite (negative : Bool)
  /-- A count of units of `2⁻¹⁰⁷⁴`, with a sign that zero has too. -/
  | finite (negative : Bool) (units : Nat)
deriving DecidableEq, Repr

namespace Number

/-- One is this power of two in units. -/
def onePlace : Nat := 1074

/-- The least count beyond the finite numbers is this power of two. -/
def limitPlace : Nat := 2098

/-- How many units make one. -/
@[irreducible] def one : Nat := Nat.pow 2 onePlace

/-- The least count of units beyond the finite numbers. -/
@[irreducible] def unitLimit : Nat := Nat.pow 2 limitPlace

theorem one_pos : 0 < one := by
  unfold one
  generalize onePlace = n
  exact Nat.two_pow_pos n

theorem unitLimit_pos : 0 < unitLimit := by
  unfold unitLimit
  generalize limitPlace = n
  exact Nat.two_pow_pos n

/-- The number zero. -/
def zero : Number := .finite false 0

instance : Inhabited Number := ⟨zero⟩

/-- The signed count of units of a finite number. -/
def signed (negative : Bool) (units : Nat) : Int := if negative then -(units : Int) else units

/-- Whether the first number is at most the second. -/
def le : Number → Number → Bool
  | .nan, _ => false
  | _, .nan => false
  | .infinite true, _ => true
  | _, .infinite false => true
  | .infinite false, _ => false
  | _, .infinite true => false
  | .finite s m, .finite t n => signed s m ≤ signed t n

instance : LE Number := ⟨fun a b => a.le b = true⟩

instance (a b : Number) : Decidable (a ≤ b) := inferInstanceAs (Decidable (a.le b = true))

instance : LT Number := ⟨fun a b => a ≤ b ∧ ¬ b ≤ a⟩

instance (a b : Number) : Decidable (a < b) := inferInstanceAs (Decidable (_ ∧ _))

/-- Whether two numbers compare as equal: the zeros do, and nothing equals not-a-number. -/
def equals (a b : Number) : Bool := a ≤ b && b ≤ a

/-! ## Lemmas -/

theorem not_nan_le (a : Number) : ¬ Number.nan ≤ a := by
  intro h; cases h

theorem not_le_nan (a : Number) : ¬ a ≤ Number.nan := by
  intro h; cases a <;> cases h

/-- A finite number is positive exactly if it has the positive sign and is not zero. -/
theorem zero_lt_finite_iff (s : Bool) (u : Nat) :
    zero < .finite s u ↔ s = false ∧ 0 < u := by
  show (zero.le (.finite s u) = true ∧ ¬ (Number.finite s u).le zero = true) ↔ _
  cases s <;> simp [zero, le, signed, Nat.pos_iff_ne_zero]

end Number

end FormRules
