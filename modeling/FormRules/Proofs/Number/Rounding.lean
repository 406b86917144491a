import FormRules.Proofs.Number.Decimal
import Mathlib.Data.Nat.Dist

/-!
# Rounding gives the nearest number

What rounding to double precision gives is described without saying how it is found.

*Nearest.*  A count of units with at most 53 significant bits is a number (`IsRepresentable`),
unless it is too large.  `nearest` gives one of them, and no other is nearer to the quotient
(`dist_nearest_le`).  Numbers of the same or a higher place are multiples of the same spacing, and
among multiples the nearest is taken.  A number of a lower place is below the leading place, which
is a multiple too and not above the quotient.

*Error.*  From `2⁵²` units on, the outcome differs from the quotient by at most one part in `2⁵³`
(`nearest_mul_le`, `le_nearest_mul`).

*The limit.*  Half way between the largest finite number and `2¹⁰²⁴` the multiple of `2¹⁰²⁴` is the
even one.  So a quotient is rounded to a finite number exactly if it is below `2¹⁰²⁴ - 2⁹⁷⁰`
(`nearest_lt_unitLimit_iff`), and so is a decimal (`Decimal.exists_toNumber_eq_finite_iff`).
-/

namespace FormRules

namespace Number

variable {num den k m v : Nat}

/-! ## Whole numbers -/

theorem roundHalfEven_cases (num den : Nat) :
    (roundHalfEven num den = num / den ∧ 2 * (num % den) ≤ den) ∨
      (roundHalfEven num den = num / den + 1 ∧ den ≤ 2 * (num % den)) := by
  simp only [roundHalfEven]
  split
  · exact .inl ⟨rfl, by omega⟩
  · split
    · exact .inr ⟨rfl, by omega⟩
    · split
      · exact .inl ⟨rfl, by omega⟩
      · exact .inr ⟨rfl, by omega⟩

/-- No multiple is nearer than the one that is rounded to. -/
theorem dist_roundHalfEven_le (hden : 0 < den) (num k : Nat) :
    Nat.dist num (den * roundHalfEven num den) ≤ Nat.dist num (den * k) := by
  have hsplit := Nat.div_add_mod num den
  have hrest := Nat.mod_lt num hden
  have hside : den * k ≤ den * (num / den) ∨ den * (num / den) + den ≤ den * k := by
    rcases Nat.lt_or_ge (num / den) k with h | h
    · exact .inr (Nat.mul_le_mul_left den h)
    · exact .inl (Nat.mul_le_mul_left den h)
  simp only [Nat.dist]
  rcases roundHalfEven_cases num den with ⟨hround, hhalf⟩ | ⟨hround, hhalf⟩
  · rw [hround]
    omega
  · rw [hround, Nat.mul_succ]
    omega

theorem two_mul_mul_roundHalfEven_le (num den : Nat) :
    2 * (den * roundHalfEven num den) ≤ 2 * num + den := by
  have hsplit := Nat.div_add_mod num den
  rcases roundHalfEven_cases num den with ⟨hround, hhalf⟩ | ⟨hround, hhalf⟩
  · rw [hround]
    omega
  · rw [hround, Nat.mul_succ]
    omega

theorem two_mul_le_mul_roundHalfEven (hden : 0 < den) (num : Nat) :
    2 * num ≤ 2 * (den * roundHalfEven num den) + den := by
  have hsplit := Nat.div_add_mod num den
  have hrest := Nat.mod_lt num hden
  rcases roundHalfEven_cases num den with ⟨hround, hhalf⟩ | ⟨hround, hhalf⟩
  · rw [hround]
    omega
  · rw [hround, Nat.mul_succ]
    omega

/-- Half way from an odd number it is rounded up. -/
theorem lt_roundHalfEven_iff (hden : 0 < den) (hodd : k % 2 = 1) (num : Nat) :
    k < roundHalfEven num den ↔ den * (2 * k + 1) ≤ 2 * num := by
  have hsplit := Nat.div_add_mod num den
  have hrest := Nat.mod_lt num hden
  rw [Nat.mul_succ, Nat.mul_left_comm]
  rcases Nat.lt_trichotomy k (num / den) with hlt | rfl | hgt
  · have hle : den * k + den ≤ den * (num / den) := Nat.mul_le_mul_left den hlt
    exact ⟨fun _ => by omega, fun _ => Nat.lt_of_lt_of_le hlt (div_le_roundHalfEven num den)⟩
  · simp only [roundHalfEven]
    split
    · omega
    · split
      · omega
      · rw [if_neg (by omega)]
        omega
  · have hle : den * (num / den) + den ≤ den * k := Nat.mul_le_mul_left den hgt
    have hround : roundHalfEven num den ≤ num / den + 1 := by
      rcases roundHalfEven_cases num den with h | h <;> omega
    omega

theorem roundHalfEven_mul_right (hk : 0 < k) (num den : Nat) :
    roundHalfEven (num * k) (den * k) = roundHalfEven num den := by
  have hquotient : num * k / (den * k) = num / den := Nat.mul_div_mul_right num den hk
  have hrest : num * k % (den * k) = num % den * k := Nat.mul_mod_mul_right k num den
  have hlt : ∀ a b, a * k < b * k ↔ a < b := fun a b => Nat.mul_lt_mul_right hk
  simp only [roundHalfEven, hquotient, hrest, ← Nat.mul_assoc, hlt]

/-! ## The nearest number -/

/-- A count of units with at most 53 significant bits. -/
def IsRepresentable (units : Nat) : Prop := ∃ m k, m < 2 ^ 53 ∧ units = m * 2 ^ k

theorem nearest_eq (num den : Nat) :
    nearest num den = spacing (num * one / den) *
      roundHalfEven (num * one) (den * spacing (num * one / den)) := rfl

/-- A factor of both sides of a quotient does not matter. -/
theorem nearest_mul_right (hk : 0 < k) (num den : Nat) :
    nearest (num * k) (den * k) = nearest num den := by
  have hscaled : num * k * one = num * one * k := Nat.mul_right_comm num k one
  have hstep : ∀ step, den * k * step = den * step * k := Nat.mul_right_comm den k
  simp only [nearest, hscaled, hstep, Nat.mul_div_mul_right _ _ hk, roundHalfEven_mul_right hk]

/-- A count is less than `2⁵³` times its spacing. -/
theorem lt_two_pow_mul_spacing (u : Nat) : u < 2 ^ 53 * spacing u :=
  calc u < 2 ^ (u.log2 + 1) := Nat.lt_log2_self
    _ ≤ 2 ^ (53 + (u.log2 - 52)) := Nat.pow_le_pow_right (by decide) (by omega)
    _ = 2 ^ 53 * spacing u := Nat.pow_add 2 53 _

/-- Its leading place is `2⁵²` times its spacing, unless the spacing is one. -/
theorem two_pow_mul_spacing {u : Nat} (h : 52 ≤ u.log2) : 2 ^ 52 * spacing u = 2 ^ u.log2 := by
  show 2 ^ 52 * 2 ^ (u.log2 - 52) = 2 ^ u.log2
  rw [← Nat.pow_add, Nat.add_sub_cancel' h]

theorem isRepresentable_nearest (num den : Nat) : IsRepresentable (nearest num den) := by
  rw [nearest_eq]
  generalize hu : num * one / den = u
  have hquotient : num * one / (den * spacing u) < 2 ^ 53 := by
    rw [← Nat.div_div_eq_div_mul, hu, Nat.div_lt_iff_lt_mul (spacing_pos u)]
    exact lt_two_pow_mul_spacing u
  have hround : roundHalfEven (num * one) (den * spacing u) < 2 ^ 53 ∨
      roundHalfEven (num * one) (den * spacing u) = 2 ^ 53 := by
    rcases roundHalfEven_cases (num * one) (den * spacing u) with h | h <;> omega
  rcases hround with hlt | heq
  · exact ⟨_, u.log2 - 52, hlt, Nat.mul_comm _ _⟩
  · refine ⟨1, u.log2 - 52 + 53, by decide, ?_⟩
    rw [heq, Nat.one_mul, Nat.pow_add]
    rfl

/-- A number is a multiple of the spacing, or below the leading place. -/
theorem IsRepresentable.dvd_or_lt (h : IsRepresentable v) (u : Nat) :
    spacing u ∣ v ∨ 52 ≤ u.log2 ∧ v < 2 ^ u.log2 := by
  obtain ⟨m, k, hm, rfl⟩ := h
  rcases Nat.lt_or_ge k (u.log2 - 52) with hlt | hge
  · refine .inr ⟨by omega, ?_⟩
    calc m * 2 ^ k < 2 ^ 53 * 2 ^ k := Nat.mul_lt_mul_of_pos_right hm (Nat.two_pow_pos k)
      _ = 2 ^ (53 + k) := (Nat.pow_add 2 53 k).symm
      _ ≤ 2 ^ u.log2 := Nat.pow_le_pow_right (by decide) (by omega)
  · exact .inl (Nat.dvd_mul_left_of_dvd (Nat.pow_dvd_pow 2 hge) m)

/-- No number is nearer to a quotient than the one that it is rounded to. -/
theorem dist_nearest_le (hden : 0 < den) (hv : IsRepresentable v) :
    Nat.dist (num * one) (den * nearest num den) ≤ Nat.dist (num * one) (den * v) := by
  rw [nearest_eq]
  generalize hu : num * one / den = u
  have hstep : 0 < den * spacing u := Nat.mul_pos hden (spacing_pos u)
  have hbest := dist_roundHalfEven_le hstep (num * one)
  rw [← Nat.mul_assoc]
  rcases hv.dvd_or_lt u with ⟨k, rfl⟩ | ⟨hlog, hlt⟩
  · rw [← Nat.mul_assoc]
    exact hbest k
  · -- The leading place lies between the number and the quotient.
    have hlead : den * spacing u * 2 ^ 52 = den * 2 ^ u.log2 := by
      rw [Nat.mul_assoc, Nat.mul_comm (spacing u), two_pow_mul_spacing hlog]
    have hne : u ≠ 0 := by
      rintro rfl
      rw [Nat.log2_zero] at hlog
      omega
    have hle : den * 2 ^ u.log2 ≤ num * one :=
      Nat.le_trans (Nat.mul_le_mul_left den (Nat.log2_self_le hne)) (hu ▸ Nat.mul_div_le _ den)
    have hbelow : den * v < den * 2 ^ u.log2 := Nat.mul_lt_mul_of_pos_left hlt hden
    have hleading := hbest (2 ^ 52)
    rw [hlead] at hleading
    simp only [Nat.dist] at hleading ⊢
    omega

/-- Rounding does not pass a number from below. -/
theorem nearest_le_of_le (hden : 0 < den) (hv : IsRepresentable v) (h : num * one ≤ den * v) :
    nearest num den ≤ v := by
  refine Nat.le_of_not_lt fun hlt => ?_
  have hdist : Nat.dist (num * one) (den * nearest num den) ≤ Nat.dist (num * one) (den * v) :=
    dist_nearest_le hden hv
  have hmul : den * v < den * nearest num den := Nat.mul_lt_mul_of_pos_left hlt hden
  simp only [Nat.dist] at hdist
  omega

/-- Nor does it from above. -/
theorem le_nearest_of_le (hden : 0 < den) (hv : IsRepresentable v) (h : den * v ≤ num * one) :
    v ≤ nearest num den := by
  refine Nat.le_of_not_lt fun hlt => ?_
  have hdist : Nat.dist (num * one) (den * nearest num den) ≤ Nat.dist (num * one) (den * v) :=
    dist_nearest_le hden hv
  have hmul : den * nearest num den < den * v := Nat.mul_lt_mul_of_pos_left hlt hden
  simp only [Nat.dist] at hdist
  omega

/-- A number is rounded to itself. -/
theorem nearest_of_isRepresentable (hden : 0 < den) (hv : IsRepresentable v)
    (h : num * one = den * v) : nearest num den = v :=
  Nat.le_antisymm (nearest_le_of_le hden hv (Nat.le_of_eq h))
    (le_nearest_of_le hden hv (Nat.le_of_eq h.symm))

/-- A whole number with few significant bits is a number. -/
theorem nearest_eq_mul_one (h : m < 2 ^ 53) (k : Nat) :
    nearest (m * 2 ^ k) 1 = m * 2 ^ k * one := by
  refine nearest_of_isRepresentable Nat.one_pos ⟨m, k + onePlace, h, ?_⟩ (Nat.one_mul _).symm
  rw [one_eq, Nat.mul_assoc, ← Nat.pow_add]

theorem isRepresentable_one : IsRepresentable one :=
  ⟨1, onePlace, by decide, by rw [one_eq, Nat.one_mul]⟩

/-! ## The error -/

/-- One step is at most one part in `2⁵²`. -/
theorem two_pow_mul_step_le (h : den * 2 ^ 52 ≤ num * one) :
    2 ^ 52 * (den * spacing (num * one / den)) ≤ num * one := by
  rcases Nat.eq_zero_or_pos den with rfl | hden
  · simp
  generalize hu : num * one / den = u
  have hle : 2 ^ 52 ≤ u := by
    rwa [← hu, Nat.le_div_iff_mul_le hden, Nat.mul_comm]
  have hne : u ≠ 0 := by omega
  calc 2 ^ 52 * (den * spacing u) = den * 2 ^ u.log2 := by
        rw [Nat.mul_left_comm, two_pow_mul_spacing ((Nat.le_log2 hne).2 hle)]
    _ ≤ den * u := Nat.mul_le_mul_left den (Nat.log2_self_le hne)
    _ ≤ num * one := hu ▸ Nat.mul_div_le _ den

/-- Rounding adds at most one part in `2⁵³`. -/
theorem nearest_mul_le (h : den * 2 ^ 52 ≤ num * one) :
    2 ^ 53 * (den * nearest num den) ≤ (2 ^ 53 + 1) * (num * one) := by
  have hstep := two_pow_mul_step_le h
  rw [nearest_eq, ← Nat.mul_assoc den]
  have hround := two_mul_mul_roundHalfEven_le (num * one) (den * spacing (num * one / den))
  omega

/-- Rounding takes away at most one part in `2⁵³`. -/
theorem le_nearest_mul (hden : 0 < den) (h : den * 2 ^ 52 ≤ num * one) :
    (2 ^ 53 - 1) * (num * one) ≤ 2 ^ 53 * (den * nearest num den) := by
  have hstep := two_pow_mul_step_le h
  rw [nearest_eq, ← Nat.mul_assoc den]
  have hround := two_mul_le_mul_roundHalfEven
    (Nat.mul_pos hden (spacing_pos (num * one / den))) (num * one)
  omega

/-! ## The limit -/

/-- Half way between the largest finite number and the limit. -/
def overflowThreshold : Nat := 2 ^ 1024 - 2 ^ 970

/-- The spacing of the largest finite numbers is this power of two. -/
def topPlace : Nat := limitPlace - 53

/-- The spacing of the largest finite numbers. -/
@[irreducible] def topSpacing : Nat := Nat.pow 2 topPlace

theorem topSpacing_eq : topSpacing = 2 ^ topPlace := by
  unfold topSpacing
  generalize topPlace = n
  rfl

theorem topSpacing_pos : 0 < topSpacing := by
  rw [topSpacing_eq]
  exact Nat.two_pow_pos topPlace

theorem unitLimit_eq_mul : unitLimit = 2 ^ 53 * topSpacing := by
  have hplace : limitPlace = 53 + topPlace := rfl
  rw [unitLimit_eq, topSpacing_eq, hplace, Nat.pow_add]

theorem two_mul_overflowThreshold : 2 * (overflowThreshold * one) = (2 ^ 54 - 1) * topSpacing := by
  have hhalf : 2 * overflowThreshold = (2 ^ 54 - 1) * 2 ^ 971 := by decide +kernel
  have hplace : topPlace = 971 + onePlace := rfl
  calc 2 * (overflowThreshold * one) = 2 * overflowThreshold * one := (Nat.mul_assoc _ _ _).symm
    _ = (2 ^ 54 - 1) * (2 ^ 971 * one) := by rw [hhalf, Nat.mul_assoc]
    _ = (2 ^ 54 - 1) * topSpacing := by rw [one_eq, topSpacing_eq, hplace, Nat.pow_add]

/-- The spacing is the same from one power of two to the next. -/
theorem spacing_eq_two_pow {u : Nat} (hlow : 2 ^ 52 * 2 ^ k ≤ u) (hhigh : u < 2 ^ 53 * 2 ^ k) :
    spacing u = 2 ^ k := by
  have hne : u ≠ 0 := Nat.pos_iff_ne_zero.1
    (Nat.lt_of_lt_of_le (Nat.mul_pos (Nat.two_pow_pos 52) (Nat.two_pow_pos k)) hlow)
  rw [← Nat.pow_add, ← Nat.le_log2 hne] at hlow
  rw [← Nat.pow_add, ← Nat.log2_lt hne] at hhigh
  show 2 ^ (u.log2 - 52) = 2 ^ k
  congr 1
  omega

/-- A quotient is rounded to a finite number exactly if it is below the threshold. -/
theorem nearest_lt_unitLimit_iff (hden : 0 < den) :
    nearest num den < unitLimit ↔ num < den * overflowThreshold := by
  have hthreshold : num < den * overflowThreshold ↔
      2 * (num * one) < (2 ^ 54 - 1) * (den * topSpacing) := by
    rw [Nat.mul_left_comm _ den, ← two_mul_overflowThreshold, Nat.mul_left_comm den 2,
      Nat.mul_lt_mul_left Nat.two_pos, ← Nat.mul_assoc, Nat.mul_lt_mul_right one_pos]
  rw [hthreshold]
  rcases Nat.lt_or_ge (num * one / den) (2 ^ 52 * topSpacing) with hsmall | hlow
  · have hbelow : num * one < 2 ^ 52 * (den * topSpacing) := by
      rwa [Nat.div_lt_iff_lt_mul hden, Nat.mul_assoc, Nat.mul_comm topSpacing] at hsmall
    have hplace : IsRepresentable (2 ^ 52 * topSpacing) :=
      ⟨2 ^ 52, topPlace, by decide, by rw [topSpacing_eq]⟩
    have hround : nearest num den ≤ 2 ^ 52 * topSpacing := by
      refine nearest_le_of_le hden hplace (Nat.le_of_lt ?_)
      rwa [Nat.mul_left_comm]
    have hpos := topSpacing_pos
    exact iff_of_true (by rw [unitLimit_eq_mul]; omega) (by omega)
  rcases Nat.lt_or_ge (num * one / den) (2 ^ 53 * topSpacing) with hhigh | hlarge
  · -- The largest finite number is an odd multiple of the spacing.
    have hodd : (2 ^ 53 - 1) % 2 = 1 := by decide
    have hup := lt_roundHalfEven_iff (Nat.mul_pos hden topSpacing_pos) hodd (num * one)
    have hspacing : spacing (num * one / den) = topSpacing := by
      rw [topSpacing_eq] at hlow hhigh ⊢
      exact spacing_eq_two_pow hlow hhigh
    rw [nearest_eq, hspacing, unitLimit_eq_mul, Nat.mul_comm topSpacing,
      Nat.mul_lt_mul_right topSpacing_pos]
    omega
  · have habove : den * unitLimit ≤ num * one := by
      rw [unitLimit_eq_mul, Nat.mul_comm]
      exact (Nat.le_div_iff_mul_le hden).1 hlarge
    refine iff_of_false (Nat.not_lt.2 (unitLimit_le_nearest hden habove)) ?_
    rw [unitLimit_eq_mul, Nat.mul_left_comm] at habove
    omega

end Number

/-- A decimal is read as a finite number exactly if its exact value is below the threshold. -/
theorem Decimal.exists_toNumber_eq_finite_iff (d : Decimal) :
    (∃ negative units, d.toNumber = .finite negative units) ↔
      d.numerator < d.denominator * Number.overflowThreshold := by
  have hden : 0 < d.denominator := Nat.pow_pos (by decide)
  rw [toNumber_eq_ofRatio, ← Number.nearest_lt_unitLimit_iff hden, Number.ofRatio]
  constructor
  · rintro ⟨negative, units, h⟩
    by_contra hlt
    rw [Number.nearest?_of_not_lt hlt] at h
    cases h
  · intro hlt
    rw [Number.nearest?_of_lt hlt]
    exact ⟨_, _, rfl⟩

end FormRules
