import FormRules.Number

/-!
# Rounding to double precision

A count of units belongs to a number of double precision if it has at most 53
significant bits.  So the numbers near a count `u` lie `spacing u` apart.  A
quotient is rounded to the nearest of them, and half way to the one whose count
of spacings is even.  A quotient that rounds to `unitLimit` or more is beyond
every finite number.

`nearest` rounds any quotient.  A whole number, a decimal numeral and the
product or quotient of two numbers are all quotients, so this one function does
all the rounding there is.
-/

namespace FormRules.Number

/-- The distance between neighbouring numbers of double precision near a count of units. -/
def spacing (units : Nat) : Nat := Nat.pow 2 (units.log2 - 52)

/-- The whole number nearest to a quotient, the even one if two are equally near. -/
def roundHalfEven (num den : Nat) : Nat :=
  let q := num / den
  let twice := 2 * (num % den)
  if twice < den then q
  else if den < twice then q + 1
  else if q % 2 = 0 then q else q + 1

/-- The count of units of the number of double precision nearest to `num / den`, without an upper
limit. -/
def nearest (num den : Nat) : Nat :=
  let scaled := num * one
  let step := spacing (scaled / den)
  step * roundHalfEven scaled (den * step)

/-- The same, if it is the count of a finite number. -/
def nearest? (num den : Nat) : Option Nat :=
  let u := nearest num den
  if u < unitLimit then some u else none

/-- The number nearest to `num / den`, with a sign.  Beyond the finite numbers it is infinite. -/
def ofRatio (negative : Bool) (num den : Nat) : Number :=
  (nearest? num den).elim (.infinite negative) (.finite negative)

/-- The number nearest to a whole number. -/
def ofNat (n : Nat) : Number := ofRatio false n 1

/-- The number nearest to a signed whole number.  Zero is positive. -/
def ofInt (n : Int) : Number := ofRatio (n < 0) n.natAbs 1

/-! ## Lemmas -/

theorem spacing_pos (u : Nat) : 0 < spacing u := Nat.two_pow_pos _

/-- The spacing is no more than the count, unless the count is zero. -/
theorem spacing_le {u : Nat} (h : 0 < u) : spacing u ≤ u := by
  have hlog : Nat.pow 2 u.log2 ≤ u := Nat.log2_self_le (Nat.pos_iff_ne_zero.1 h)
  exact Nat.le_trans (Nat.pow_le_pow_right (by decide) (Nat.sub_le _ _)) hlog

theorem div_le_roundHalfEven (num den : Nat) : num / den ≤ roundHalfEven num den := by
  simp only [roundHalfEven]
  split
  · exact Nat.le_refl _
  · split
    · exact Nat.le_succ _
    · split
      · exact Nat.le_refl _
      · exact Nat.le_succ _

/-- Zero is read as zero. -/
@[simp] theorem nearest_zero (den : Nat) : nearest 0 den = 0 := by
  have h : roundHalfEven 0 (den * spacing 0) = 0 := by
    cases den <;> simp [roundHalfEven, spacing]
  simp [nearest, h]

/-- A quotient of at least one unit does not round to zero. -/
theorem nearest_pos {num den : Nat} (hden : 0 < den) (h : den ≤ num * one) :
    0 < nearest num den := by
  have hu : 0 < num * one / den := Nat.div_pos h hden
  have hs := spacing_le hu
  simp only [nearest]
  refine Nat.mul_pos (spacing_pos _) (Nat.lt_of_lt_of_le ?_ (div_le_roundHalfEven _ _))
  rw [← Nat.div_div_eq_div_mul]
  exact Nat.div_pos hs (spacing_pos _)

theorem nearest?_of_lt {num den : Nat} (h : nearest num den < unitLimit) :
    nearest? num den = some (nearest num den) := if_pos h

theorem nearest?_of_not_lt {num den : Nat} (h : ¬ nearest num den < unitLimit) :
    nearest? num den = none := if_neg h

theorem nearest?_zero (den : Nat) : nearest? 0 den = some 0 := by
  rw [nearest?_of_lt (by rw [nearest_zero]; exact unitLimit_pos), nearest_zero]

theorem ofRatio_zero (s : Bool) (den : Nat) : ofRatio s 0 den = .finite s 0 := by
  rw [ofRatio, nearest?_zero, Option.elim_some]

/-- A whole number other than zero is read as a positive number. -/
theorem zero_lt_ofNat_iff (n : Nat) : zero < ofNat n ↔ 0 < n := by
  constructor
  · intro h
    cases n with
    | zero => rw [ofNat, ofRatio_zero, zero_lt_finite_iff] at h; exact h.2
    | succ n => exact Nat.succ_pos n
  · intro h
    have hp : 0 < nearest n 1 := nearest_pos Nat.one_pos (Nat.mul_pos h one_pos)
    rw [ofNat, ofRatio]
    by_cases hl : nearest n 1 < unitLimit
    · rw [nearest?_of_lt hl, Option.elim_some]
      exact (zero_lt_finite_iff _ _).2 ⟨rfl, hp⟩
    · rw [nearest?_of_not_lt hl, Option.elim_none]
      decide

end FormRules.Number
