import FormRules.Number.Decimal
import Mathlib.Algebra.Group.Nat.Defs

/-!
# Reading a decimal is rounding its exact value

The exact value of a decimal is a quotient of whole numbers, and the number that
a decimal is read as should be this quotient rounded.  `Decimal.toNumber` does
not always form it, since a power of ten with a large exponent is long.  It
decides at once where the exponent is out of range.  Both shortcuts give what
rounding gives (`toNumber_eq_ofRatio`).

* A quotient of at least `unitLimit` units is not rounded below it, since
  rounding keeps the leading place (`two_pow_log2_le_nearest`).
* A quotient of less than half a unit is rounded to zero (`nearest_eq_zero`).
-/

namespace FormRules

namespace Number

theorem one_eq : one = 2 ^ onePlace := by
  unfold one
  generalize onePlace = n
  rfl

theorem unitLimit_eq : unitLimit = 2 ^ limitPlace := by
  unfold unitLimit
  generalize limitPlace = n
  rfl

variable {num den : Nat}

/-- The number next below a count of units is at least its leading place. -/
theorem two_pow_log2_le_spacing_mul {u : Nat} (hu : 0 < u) :
    2 ^ u.log2 ≤ spacing u * (u / spacing u) := by
  have hsplit : 2 ^ u.log2 = spacing u * 2 ^ (u.log2 - (u.log2 - 52)) := by
    show 2 ^ u.log2 = 2 ^ (u.log2 - 52) * 2 ^ (u.log2 - (u.log2 - 52))
    rw [← Nat.pow_add]
    congr 1
    omega
  have hlog : 2 ^ u.log2 ≤ u := Nat.log2_self_le (Nat.pos_iff_ne_zero.1 hu)
  rw [hsplit]
  refine Nat.mul_le_mul_left _ ((Nat.le_div_iff_mul_le (spacing_pos u)).2 ?_)
  rw [Nat.mul_comm, ← hsplit]
  exact hlog

/-- Rounding does not go below the leading place of a count of units. -/
theorem two_pow_log2_le_nearest (h : 0 < num * one / den) :
    2 ^ (num * one / den).log2 ≤ nearest num den := by
  refine Nat.le_trans (two_pow_log2_le_spacing_mul h) (Nat.mul_le_mul_left _ ?_)
  rw [Nat.div_div_eq_div_mul]
  exact div_le_roundHalfEven _ _

/-- A quotient beyond the finite numbers is not rounded to one of them. -/
theorem unitLimit_le_nearest (hden : 0 < den) (h : den * unitLimit ≤ num * one) :
    unitLimit ≤ nearest num den := by
  have hunits : unitLimit ≤ num * one / den :=
    (Nat.le_div_iff_mul_le hden).2 (by rwa [Nat.mul_comm])
  have hpos : 0 < num * one / den := Nat.lt_of_lt_of_le unitLimit_pos hunits
  have hlog : limitPlace ≤ (num * one / den).log2 := by
    rw [Nat.le_log2 (Nat.pos_iff_ne_zero.1 hpos), ← unitLimit_eq]
    exact hunits
  rw [unitLimit_eq]
  exact Nat.le_trans (Nat.pow_le_pow_right (by decide) hlog) (two_pow_log2_le_nearest hpos)

/-- Less than half a unit is rounded to zero. -/
theorem nearest_eq_zero (h : 2 * (num * one) < den) : nearest num den = 0 := by
  have hdiv : num * one / den = 0 := Nat.div_eq_of_lt (by omega)
  have hround : roundHalfEven (num * one) (den * spacing 0) = 0 := by
    have hspacing : den * spacing 0 = den := Nat.mul_one den
    have hmod : num * one % den = num * one := Nat.mod_eq_of_lt (by omega)
    rw [hspacing]
    simp [roundHalfEven, hdiv, hmod, h]
  simp [nearest, hdiv, hround]

theorem ofRatio_of_unitLimit_le (s : Bool) (h : unitLimit ≤ nearest num den) :
    ofRatio s num den = .infinite s := by
  rw [ofRatio, nearest?_of_not_lt (Nat.not_lt.2 h), Option.elim_none]

theorem ofRatio_of_nearest_eq_zero (s : Bool) (h : nearest num den = 0) :
    ofRatio s num den = .finite s 0 := by
  rw [ofRatio, nearest?_of_lt (h ▸ unitLimit_pos), Option.elim_some, h]

theorem ofRatio_ne_nan (s : Bool) (num den : Nat) : ofRatio s num den ≠ .nan := by
  rw [ofRatio]
  cases nearest? num den <;> simp

end Number

namespace Decimal

/-- The numerator of the exact value, without its sign. -/
def numerator (d : Decimal) : Nat := d.coefficient * 10 ^ d.exponent.toNat

/-- The denominator of the exact value. -/
def denominator (d : Decimal) : Nat := 10 ^ (-d.exponent).toNat

/-- Three places of two are less than one place of ten. -/
theorem two_pow_le_ten_pow {n k : Nat} (h : n ≤ 3 * k) : 2 ^ n ≤ 10 ^ k :=
  calc 2 ^ n ≤ 2 ^ (3 * k) := Nat.pow_le_pow_right (by decide) h
    _ = 8 ^ k := Nat.pow_mul 2 3 k
    _ ≤ 10 ^ k := Nat.pow_le_pow_left (by decide) k

/-- Ten to a large exponent is beyond the finite numbers. -/
theorem unitLimit_le_of_large {c k : Nat} (hc : 0 < c) (hk : 400 < k) :
    1 * Number.unitLimit ≤ c * 10 ^ k * Number.one := by
  have hplaces : Number.limitPlace - Number.onePlace ≤ 3 * k := by
    simp only [Number.limitPlace, Number.onePlace]
    omega
  rw [Nat.one_mul, Number.unitLimit_eq, Number.one_eq]
  calc 2 ^ Number.limitPlace
      = 2 ^ (Number.limitPlace - Number.onePlace) * 2 ^ Number.onePlace := by
        rw [← Nat.pow_add, Nat.sub_add_cancel (by decide)]
    _ ≤ 10 ^ k * 2 ^ Number.onePlace := Nat.mul_le_mul_right _ (two_pow_le_ten_pow hplaces)
    _ ≤ c * 10 ^ k * 2 ^ Number.onePlace :=
        Nat.mul_le_mul_right _ (Nat.le_mul_of_pos_left _ hc)

/-- A coefficient over ten to a large exponent is less than half a unit. -/
theorem lt_of_small {c k : Nat} (hk : 400 + ((c.log2 + 1) / 3 + 1) ≤ k) :
    2 * (c * Number.one) < 10 ^ k := by
  obtain ⟨m, rfl⟩ := Nat.exists_eq_add_of_le' (Nat.le_of_add_left_le hk)
  have hc : c < 10 ^ ((c.log2 + 1) / 3 + 1) :=
    Nat.lt_of_lt_of_le Nat.lt_log2_self (two_pow_le_ten_pow (by omega))
  have hunits : 2 ^ (Number.onePlace + 1) ≤ 10 ^ m := by
    refine two_pow_le_ten_pow ?_
    simp only [Number.onePlace]
    omega
  calc 2 * (c * Number.one) = 2 ^ (Number.onePlace + 1) * c := by
        rw [Number.one_eq, Nat.pow_succ, Nat.mul_comm c, ← Nat.mul_assoc, Nat.mul_comm 2]
    _ ≤ 10 ^ m * c := Nat.mul_le_mul_right c hunits
    _ < 10 ^ m * 10 ^ ((c.log2 + 1) / 3 + 1) :=
        Nat.mul_lt_mul_of_pos_left hc (Nat.pow_pos (by decide))
    _ = 10 ^ (m + ((c.log2 + 1) / 3 + 1)) := (Nat.pow_add 10 _ _).symm

/-- A decimal is read as its exact value, rounded. -/
theorem toNumber_eq_ofRatio (d : Decimal) :
    d.toNumber = .ofRatio d.negative d.numerator d.denominator := by
  rw [toNumber, numerator, denominator]
  split
  case isTrue hzero => rw [hzero, Nat.zero_mul, Number.ofRatio_zero]
  case isFalse hzero =>
    have hc : 0 < d.coefficient := Nat.pos_iff_ne_zero.2 hzero
    split
    case isTrue hlarge =>
      have hexp : (-d.exponent).toNat = 0 := by omega
      rw [hexp, Nat.pow_zero]
      refine (Number.ofRatio_of_unitLimit_le _ ?_).symm
      exact Number.unitLimit_le_nearest Nat.one_pos (unitLimit_le_of_large hc (by omega))
    case isFalse =>
      split
      case isTrue hsmall =>
        have hexp : d.exponent.toNat = 0 := by omega
        rw [hexp, Nat.pow_zero, Nat.mul_one]
        refine (Number.ofRatio_of_nearest_eq_zero _ ?_).symm
        exact Number.nearest_eq_zero (lt_of_small (by omega))
      case isFalse =>
        split
        case isTrue hexp =>
          have hexp' : (-d.exponent).toNat = 0 := by omega
          rw [hexp', Nat.pow_zero]
          rfl
        case isFalse hexp =>
          have hexp' : d.exponent.toNat = 0 := by omega
          rw [hexp', Nat.pow_zero, Nat.mul_one]
          rfl

end Decimal

end FormRules
