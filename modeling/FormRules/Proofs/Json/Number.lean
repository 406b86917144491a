import FormRules.Proofs.Json.Digits
import FormRules.Proofs.Number.Rounding

/-!
# Which numerals of JSON are finite numbers

A numeral of JSON is read by rounding the digits that count, rounding a power of ten and rounding
once more, which is not rounding its exact value.  So close to the limit a numeral may be refused
although the number nearest to it is finite.

*Double precision.*  What a numeral comes to is a matter of rounded products and quotients
(`ReadsAs`), and it is what the reader gives (`toNumber?_eq_some_iff`).  It is a finite number with
the sign that is written (`ReadsAs.finite`).

*Refusal.*  A numeral is refused if the product is at or beyond the threshold of finite numbers, or
if the power of ten or the exponent is too large (`Overflows`).  Every other numeral comes to a
number (`exists_readsAs_iff`).

*The exact value.*  The digits and both factors are each nearly exact.  So, unless its exponent is
too large, a numeral with an exact value below `2¹⁰²⁴ - 2⁹⁷³` is accepted, and one of at least
`2¹⁰²⁴ + 2⁹⁷³` is refused, however long it is (`not_overflows_of_lt`, `overflows_of_le`).

*Short numerals.*  With digits that make a whole number below `2⁵³` and a power of ten of at most 22
either way, the outcome is the nearest number (`readsAs_of_short`).  Up to 53 significant bits a
whole number is a number, and so is a power of ten up to `10²²`, since the power of five in it has
as few bits.  So only the last of the three roundings is one, and what its two sides are measured in
cancels.
-/

namespace FormRules.Json

variable {n : Numeral} {m power units out : Nat} {p : Int} {x : Number}

/-! ## Double precision -/

/-- What is written as the exponent, without its sign. -/
def writtenExponent (n : Numeral) : Nat := Text.digitsValue ((n.exponent.map Prod.snd).getD [])

/-- Whether the exponent has a minus sign. -/
def isSmall (n : Numeral) : Bool := n.exponent.any fun e => e.1 == some '-'

/-- What dividing a count of units by a power of ten comes to. -/
inductive Divides : Nat → Nat → Nat → Prop where
  /-- A quotient by a rounded power is rounded. -/
  | once {units power : Nat} :
      power ≤ powerLimit → Divides units power (Number.nearest units (powerUnits power))
  /-- Beyond `10³⁰⁸` one goes on with what is divided by it. -/
  | further {units power out : Nat} :
      0 < power → Divides (Number.nearest units (powerUnits powerLimit)) power out →
        Divides units (power + powerLimit) out

/-- The number that a numeral comes to in double precision. -/
inductive ReadsAs (n : Numeral) : Number → Prop where
  /-- The digits are rounded, a power of ten is rounded, and so is their product.  Both are counts
  of units, so their product is measured in the square of the unit. -/
  | product {m power : Nat} :
      CutsTo n m power → writtenExponent n < 2 ^ 31 → power ≤ powerLimit →
        Number.nearest m 1 * powerUnits power <
          Number.one * Number.one * Number.overflowThreshold →
          ReadsAs n (.finite (n.sign = some '-')
            (Number.nearest (Number.nearest m 1 * powerUnits power) (Number.one * Number.one)))
  /-- The digits are rounded and divided. -/
  | quotient {m power units : Nat} :
      CutsTo n m (-(power : Int)) → 0 < power → writtenExponent n < 2 ^ 31 →
        Divides (Number.nearest m 1) power units →
          ReadsAs n (.finite (n.sign = some '-') units)
  /-- Digits that are all zero make zero with any exponent. -/
  | zero {p : Int} : CutsTo n 0 p → ReadsAs n (.finite (n.sign = some '-') 0)
  /-- So do any digits with an exponent that is too large and has a minus sign. -/
  | vanishing :
      2 ^ 31 ≤ writtenExponent n → isSmall n = true → ReadsAs n (.finite (n.sign = some '-') 0)

/-- What a numeral comes to in double precision is not finite. -/
inductive Overflows (n : Numeral) : Prop where
  /-- The product of the rounded digits and the rounded power of ten is not rounded to a finite
  number. -/
  | product {m power : Nat} :
      CutsTo n m power → writtenExponent n < 2 ^ 31 →
        Number.one * Number.one * Number.overflowThreshold ≤
          Number.nearest m 1 * powerUnits power → Overflows n
  /-- The power of ten is not finite. -/
  | power {m power : Nat} :
      CutsTo n m power → writtenExponent n < 2 ^ 31 → 0 < m → powerLimit < power → Overflows n
  /-- The exponent is too large. -/
  | exponent {m : Nat} {p : Int} :
      CutsTo n m p → 2 ^ 31 ≤ writtenExponent n → 0 < m → isSmall n = false → Overflows n

theorem exponent_ofNumeral (n : Numeral) :
    (Decimal.ofNumeral n).exponent =
      (if isSmall n then -(writtenExponent n : Int) else writtenExponent n) -
        (n.fraction.getD []).length := by
  obtain ⟨sign, whole, fraction, exponent⟩ := n
  simp only [Decimal.ofNumeral, isSmall, writtenExponent]
  congr 1
  split
  case h_1 => rfl
  case h_2 => rfl
  case h_3 mark ds hplus =>
    have hmark : mark ≠ some '-' := fun h => hplus h
    simp [hmark]

/-- What the numeral is cut to is scaled, if its exponent is not too large. -/
theorem CutsTo.toNumber?_eq (h : CutsTo n m p) :
    toNumber? n =
      if writtenExponent n < 2 ^ 31 then
        (scale? m p).map (.finite (n.sign = some '-'))
      else if m ≠ 0 ∧ !isSmall n then none
      else some (.finite (n.sign = some '-') 0) := by
  obtain @⟨_, _, dropped, left, hwhole, hfraction⟩ := h
  have hlimit : writtenExponent n ≤ exponentLimit ↔ writtenExponent n < 2 ^ 31 := by
    have hlimit : exponentLimit + 1 = 2 ^ 31 := by decide
    omega
  have hleft : left.length ≤ (n.fraction.getD []).length := by
    obtain ⟨⟨ts, hts, -⟩, -, -⟩ := hfraction
    rw [hts, List.length_append]
    exact Nat.le_add_left _ _
  have hpower : (dropped.length + left.length + (Decimal.ofNumeral n).exponent : Int) =
      if isSmall n then
        (dropped.length : Int) - (((n.fraction.getD []).length - left.length : Nat) : Int) -
          writtenExponent n
      else
        (dropped.length : Int) - (((n.fraction.getD []).length - left.length : Nat) : Int) +
          writtenExponent n := by
    rw [exponent_ofNumeral]
    split <;> omega
  rw [hpower, ← if_congr hlimit rfl rfl]
  simp only [toNumber?, hwhole.extend_eq, hfraction.extend_eq]
  rfl

theorem dividePower_zero (power : Nat) : dividePower 0 power = 0 := by
  rw [dividePower, if_pos rfl]

theorem Divides.dividePower_eq (h : Divides units power out) : dividePower units power = out := by
  induction h with
  | @once units power hpower =>
    by_cases hzero : units = 0
    · rw [hzero, dividePower_zero, Number.nearest_zero]
    · rw [dividePower, if_neg hzero, dif_pos hpower]
  | @further units power out hpower _ ih =>
    by_cases hzero : units = 0
    · rw [hzero, Number.nearest_zero, dividePower_zero] at ih
      rw [hzero, dividePower_zero, ih]
    · rw [dividePower, if_neg hzero, dif_neg (by omega), Nat.add_sub_cancel, ih]

theorem divides_zero (power : Nat) : Divides 0 power 0 := by
  induction power using Nat.strongRecOn with
  | ind power ih =>
    rcases Nat.lt_or_ge powerLimit power with hlt | hle
    · have hrest := ih (power - powerLimit) (Nat.sub_lt (by omega) (by decide))
      rw [← Nat.sub_add_cancel (Nat.le_of_lt hlt)]
      refine .further (by omega) ?_
      rwa [Number.nearest_zero]
    · have hzero : Divides 0 power (Number.nearest 0 (powerUnits power)) := .once hle
      rwa [Number.nearest_zero] at hzero

theorem divides_dividePower (units power : Nat) :
    Divides units power (dividePower units power) := by
  fun_induction dividePower units power with
  | case1 power => exact divides_zero power
  | case2 units power _ hle => exact .once hle
  | case3 units power _ hlt ih =>
    have hsplit : power - powerLimit + powerLimit = power := by omega
    have hfurther := Divides.further (by omega) ih
    rwa [hsplit] at hfurther

theorem nearest_eq_zero_iff : Number.nearest m 1 = 0 ↔ m = 0 := by
  constructor
  · intro h
    refine Nat.eq_zero_of_not_pos fun hpos => ?_
    have hunits := Number.nearest_pos Nat.one_pos (Nat.mul_pos hpos Number.one_pos)
    omega
  · rintro rfl
    exact Number.nearest_zero 1

theorem one_mul_one_pos : 0 < Number.one * Number.one := Nat.mul_pos Number.one_pos Number.one_pos

theorem multiplyPower?_of_lt (hpower : power ≤ powerLimit)
    (h : units * powerUnits power < Number.one * Number.one * Number.overflowThreshold) :
    multiplyPower? units power =
      some (Number.nearest (units * powerUnits power) (Number.one * Number.one)) := by
  rw [multiplyPower?, if_pos hpower, Number.nearest?_of_lt]
  exact (Number.nearest_lt_unitLimit_iff one_mul_one_pos).2 h

theorem multiplyPower?_zero (power : Nat) : multiplyPower? 0 power = some 0 := by
  rw [multiplyPower?, Nat.zero_mul, Number.nearest?_zero, if_pos rfl, ite_self]

theorem multiplyPower?_of_le
    (h : Number.one * Number.one * Number.overflowThreshold ≤ units * powerUnits power) :
    multiplyPower? units power = none := by
  rw [multiplyPower?]
  split
  · refine Number.nearest?_of_not_lt fun hlt => ?_
    have hbelow := (Number.nearest_lt_unitLimit_iff one_mul_one_pos).1 hlt
    omega
  · refine if_neg ?_
    rintro rfl
    have hpos : 0 < Number.one * Number.one * Number.overflowThreshold :=
      Nat.mul_pos one_mul_one_pos (by decide +kernel)
    omega

theorem multiplyPower?_of_powerLimit_lt (hunits : units ≠ 0) (h : powerLimit < power) :
    multiplyPower? units power = none := by
  rw [multiplyPower?, if_neg (Nat.not_le.2 h), if_neg hunits]

/-- A numeral that comes to a number is read as that number. -/
theorem ReadsAs.toNumber?_eq (h : ReadsAs n x) : toNumber? n = some x := by
  cases h with
  | product hcuts hwritten hpower hlt =>
    rw [hcuts.toNumber?_eq, if_pos hwritten, scale?, if_pos (Int.natCast_nonneg _),
      Int.toNat_natCast, multiplyPower?_of_lt hpower hlt, Option.map_some]
  | quotient hcuts hpower hwritten hdivides =>
    rw [hcuts.toNumber?_eq, if_pos hwritten, scale?, if_neg (by omega), Int.neg_neg,
      Int.toNat_natCast, hdivides.dividePower_eq, Option.map_some]
  | zero hcuts =>
    rw [hcuts.toNumber?_eq]
    split
    · rw [scale?, Number.nearest_zero, multiplyPower?_zero, dividePower_zero, ite_self,
        Option.map_some]
    · rw [if_neg (fun h => h.1 rfl)]
  | vanishing hwritten hsmall =>
    obtain ⟨m, p, hcuts⟩ := exists_cutsTo n
    rw [hcuts.toNumber?_eq, if_neg (Nat.not_lt.2 hwritten), if_neg]
    simp [hsmall]

/-- A numeral that overflows is refused. -/
theorem Overflows.toNumber?_eq (h : Overflows n) : toNumber? n = none := by
  cases h with
  | product hcuts hwritten hle =>
    rw [hcuts.toNumber?_eq, if_pos hwritten, scale?, if_pos (Int.natCast_nonneg _),
      Int.toNat_natCast, multiplyPower?_of_le hle, Option.map_none]
  | power hcuts hwritten hpos hpower =>
    have hunits := mt nearest_eq_zero_iff.1 (Nat.pos_iff_ne_zero.1 hpos)
    rw [hcuts.toNumber?_eq, if_pos hwritten, scale?, if_pos (Int.natCast_nonneg _),
      Int.toNat_natCast, multiplyPower?_of_powerLimit_lt hunits hpower, Option.map_none]
  | exponent hcuts hwritten hpos hsmall =>
    rw [hcuts.toNumber?_eq, if_neg (Nat.not_lt.2 hwritten), if_pos]
    exact ⟨Nat.pos_iff_ne_zero.1 hpos, by rw [hsmall]; rfl⟩

/-- Every numeral comes to a number or overflows. -/
theorem readsAs_or_overflows (n : Numeral) : (∃ x, ReadsAs n x) ∨ Overflows n := by
  obtain ⟨m, p, hcuts⟩ := exists_cutsTo n
  rcases Nat.eq_zero_or_pos m with rfl | hpos
  · exact .inl ⟨_, .zero hcuts⟩
  rcases Nat.lt_or_ge (writtenExponent n) (2 ^ 31) with hwritten | hwritten
  · rcases Int.lt_or_le p 0 with hneg | hnonneg
    · obtain ⟨power, rfl⟩ : ∃ power : Nat, p = -power := ⟨p.natAbs, by omega⟩
      exact .inl ⟨_, .quotient hcuts (by omega) hwritten (divides_dividePower _ _)⟩
    · obtain ⟨power, rfl⟩ := Int.eq_ofNat_of_zero_le hnonneg
      rcases Nat.lt_or_ge powerLimit power with hpower | hpower
      · exact .inr (.power hcuts hwritten hpos hpower)
      rcases Nat.lt_or_ge (Number.nearest m 1 * powerUnits power)
        (Number.one * Number.one * Number.overflowThreshold) with hlt | hle
      · exact .inl ⟨_, .product hcuts hwritten hpower hlt⟩
      · exact .inr (.product hcuts hwritten hle)
  · cases hsmall : isSmall n with
    | true => exact .inl ⟨_, .vanishing hwritten hsmall⟩
    | false => exact .inr (.exponent hcuts hwritten hpos hsmall)

/-- A numeral is read as the number that it comes to. -/
theorem toNumber?_eq_some_iff : toNumber? n = some x ↔ ReadsAs n x := by
  refine ⟨fun h => ?_, ReadsAs.toNumber?_eq⟩
  rcases readsAs_or_overflows n with ⟨y, hy⟩ | hoverflows
  · obtain rfl := Option.some.inj (hy.toNumber?_eq.symm.trans h)
    exact hy
  · cases hoverflows.toNumber?_eq.symm.trans h

/-- A numeral comes to a number exactly if it does not overflow. -/
theorem exists_readsAs_iff : (∃ x, ReadsAs n x) ↔ ¬ Overflows n := by
  refine ⟨?_, (readsAs_or_overflows n).resolve_right⟩
  rintro ⟨x, hx⟩ hoverflows
  cases hx.toNumber?_eq.symm.trans hoverflows.toNumber?_eq

/-! ## Finite numbers -/

theorem one_le_powerUnits (power : Nat) : Number.one ≤ powerUnits power := by
  refine Number.le_nearest_of_le Nat.one_pos Number.isRepresentable_one ?_
  rw [Nat.one_mul]
  exact Nat.le_mul_of_pos_left _ (Nat.pow_pos (by decide))

/-- Dividing gives a number, and one that is not above another if what is divided is not. -/
theorem Divides.isRepresentable {bound : Nat} (h : Divides units power out)
    (hbound : Number.IsRepresentable bound) (hunits : units ≤ bound) :
    Number.IsRepresentable out ∧ out ≤ bound := by
  have hquotient : ∀ {units : Nat} (power : Nat), units ≤ bound →
      Number.nearest units (powerUnits power) ≤ bound := by
    intro units power hle
    have hpower := one_le_powerUnits power
    refine Number.nearest_le_of_le (Nat.lt_of_lt_of_le Number.one_pos hpower) hbound ?_
    rw [Nat.mul_comm]
    exact Nat.mul_le_mul hpower hle
  induction h with
  | once => exact ⟨Number.isRepresentable_nearest _ _, hquotient _ hunits⟩
  | further _ _ ih => exact ih (hquotient _ hunits)

/-- What a numeral comes to is a finite number of double precision with the sign that is written. -/
theorem ReadsAs.finite (h : ReadsAs n x) :
    ∃ units, x = .finite (n.sign = some '-') units ∧ Number.IsRepresentable units ∧
      units < Number.unitLimit := by
  have hzero : Number.IsRepresentable 0 := ⟨0, 0, by decide, rfl⟩
  cases h with
  | product _ _ _ hlt =>
    exact ⟨_, rfl, Number.isRepresentable_nearest _ _,
      (Number.nearest_lt_unitLimit_iff one_mul_one_pos).2 hlt⟩
  | @quotient m _ units hcuts _ _ hdivides =>
    -- The digits are far below the limit, and what is divided does not grow.
    have hbound : Number.IsRepresentable (2 ^ 64 * Number.one) :=
      ⟨1, 64 + Number.onePlace, by decide, by rw [Number.one_eq, Nat.one_mul, Nat.pow_add]⟩
    have hdigits : Number.nearest m 1 ≤ 2 ^ 64 * Number.one := by
      refine Number.nearest_le_of_le Nat.one_pos hbound ?_
      rw [Nat.one_mul]
      exact Nat.mul_le_mul_right _ (Nat.le_of_lt hcuts.below)
    obtain ⟨hunits, hle⟩ := hdivides.isRepresentable hbound hdigits
    have hlimit : 2 ^ 64 * Number.one < Number.unitLimit := by
      rw [Number.unitLimit_eq, Number.one_eq, ← Nat.pow_add]
      exact Nat.pow_lt_pow_right (by decide) (by decide)
    exact ⟨units, rfl, hunits, Nat.lt_of_le_of_lt hle hlimit⟩
  | zero => exact ⟨0, rfl, hzero, Number.unitLimit_pos⟩
  | vanishing => exact ⟨0, rfl, hzero, Number.unitLimit_pos⟩

/-! ## Short numerals -/

/-- The numeral has few significant bits and a small power of ten. -/
structure Short (n : Numeral) : Prop where
  bits : (Decimal.ofNumeral n).coefficient < 2 ^ 53
  power : -22 ≤ (Decimal.ofNumeral n).exponent ∧ (Decimal.ofNumeral n).exponent ≤ 22
  written : writtenExponent n < 2 ^ 31

/-- Digits that make a whole number below `2⁶⁴` all count. -/
theorem cutsTo_of_lt (h : (Decimal.ofNumeral n).coefficient < 2 ^ 64) :
    CutsTo n (Decimal.ofNumeral n).coefficient (Decimal.ofNumeral n).exponent := by
  have hcoefficient := coefficient_ofNumeral n
  have hle := le_value (Text.digitsValue n.whole) (n.fraction.getD [])
  have hwhole : Leads 0 n.whole (Text.digitsValue n.whole) [] :=
    ⟨⟨n.whole, by simp, by simp⟩, by omega, nofun⟩
  have hfraction : Leads (Text.digitsValue n.whole) (n.fraction.getD [])
      (Decimal.ofNumeral n).coefficient [] := ⟨⟨_, by simp, hcoefficient⟩, h, nofun⟩
  simpa using CutsTo.digits hwhole hfraction

theorem powerUnits_eq (k : Nat) : powerUnits k = Number.nearest (10 ^ k) 1 := rfl

theorem powerUnits_of_le {k : Nat} (h : k ≤ 22) : powerUnits k = 10 ^ k * Number.one := by
  have hfive : 5 ^ k < 2 ^ 53 :=
    Nat.lt_of_le_of_lt (Nat.pow_le_pow_right (by decide) h) (by decide)
  have hten : 10 ^ k = 5 ^ k * 2 ^ k := Nat.mul_pow 5 2 k
  rw [powerUnits_eq, hten, Number.nearest_eq_mul_one hfive]

theorem lt_overflowThreshold {c k : Nat} (hc : c < 2 ^ 53) (hk : k ≤ 22) :
    c * 10 ^ k < Number.overflowThreshold :=
  calc c * 10 ^ k < 2 ^ 53 * 10 ^ 22 :=
        Nat.mul_lt_mul_of_lt_of_le hc (Nat.pow_le_pow_right (by decide) hk)
          (Nat.pow_pos (by decide))
    _ < Number.overflowThreshold := by decide +kernel

theorem ofRatio_of_short {c k den : Nat} (hc : c < 2 ^ 53) (hk : k ≤ 22) (hden : 0 < den)
    (negative : Bool) :
    Number.ofRatio negative (c * 10 ^ k) den =
      .finite negative (Number.nearest (c * 10 ^ k) den) := by
  have hlt := Nat.lt_of_lt_of_le (lt_overflowThreshold hc hk) (Nat.le_mul_of_pos_left _ hden)
  rw [Number.ofRatio, Number.nearest?_of_lt ((Number.nearest_lt_unitLimit_iff hden).2 hlt),
    Option.elim_some]

/-- A short numeral comes to the number nearest to its exact value. -/
theorem readsAs_of_short (h : Short n) : ReadsAs n (Decimal.ofNumeral n).toNumber := by
  obtain ⟨hbits, ⟨hlow, hhigh⟩, hwritten⟩ := h
  have hcuts := cutsTo_of_lt (Nat.lt_trans hbits (by decide))
  have hdigits : Number.nearest (Decimal.ofNumeral n).coefficient 1 =
      (Decimal.ofNumeral n).coefficient * Number.one := by
    simpa using Number.nearest_eq_mul_one hbits 0
  have hk : (Decimal.ofNumeral n).exponent.toNat ≤ 22 := by omega
  rw [Decimal.toNumber_eq_ofRatio, Decimal.numerator, Decimal.denominator,
    ofRatio_of_short hbits hk (Nat.pow_pos (by decide))]
  generalize (Decimal.ofNumeral n).coefficient = c, (Decimal.ofNumeral n).exponent = e at *
  rcases Int.lt_or_le e 0 with hneg | hnonneg
  · obtain ⟨k, rfl⟩ : ∃ k : Nat, e = -k := ⟨e.natAbs, by omega⟩
    have hnum : (-(k : Int)).toNat = 0 := by omega
    have hread := ReadsAs.quotient hcuts (by omega) hwritten
      (.once (Nat.le_trans (by omega : k ≤ 22) (by decide)))
    rw [hdigits, powerUnits_of_le (by omega), Number.nearest_mul_right Number.one_pos] at hread
    rw [hnum, Nat.pow_zero, Nat.mul_one, Int.neg_neg, Int.toNat_natCast]
    exact hread
  · obtain ⟨k, rfl⟩ := Int.eq_ofNat_of_zero_le hnonneg
    have hden : (-(k : Int)).toNat = 0 := by omega
    have hproduct : Number.nearest c 1 * powerUnits k =
        c * 10 ^ k * (Number.one * Number.one) := by
      rw [hdigits, powerUnits_of_le (by omega), Nat.mul_mul_mul_comm]
    have hround : Number.nearest (c * 10 ^ k * (Number.one * Number.one))
        (Number.one * Number.one) = Number.nearest (c * 10 ^ k) 1 := by
      simpa using Number.nearest_mul_right one_mul_one_pos (c * 10 ^ k) 1
    have hread := ReadsAs.product hcuts hwritten
      (Nat.le_trans (by omega : k ≤ 22) (by decide)) (by
        rw [hproduct, Nat.mul_comm, Nat.mul_lt_mul_left one_mul_one_pos]
        exact lt_overflowThreshold hbits (by omega))
    rw [hproduct, hround] at hread
    rw [hden, Nat.pow_zero, Int.toNat_natCast]
    exact hread

/-! ## Numerals that are accepted and refused -/

theorem two_pow_le_mul_one (hm : 0 < m) : 1 * 2 ^ 52 ≤ m * Number.one := by
  have hone : 2 ^ 52 ≤ Number.one := by
    rw [Number.one_eq]
    exact Nat.pow_le_pow_right (by decide) (by decide)
  exact Nat.mul_le_mul hm hone

/-- The product of the rounded digits and the rounded power is little above the exact one. -/
theorem rounded_product_le (hm : 0 < m) (power : Nat) :
    (2 ^ 53) ^ 2 * (Number.nearest m 1 * powerUnits power) ≤
      (2 ^ 53 + 1) ^ 2 * (m * 10 ^ power * (Number.one * Number.one)) := by
  have hten : 0 < 10 ^ power := Nat.pow_pos (by decide)
  have hdigits := Number.nearest_mul_le (two_pow_le_mul_one hm)
  have hpower := Number.nearest_mul_le (two_pow_le_mul_one hten)
  simp only [Nat.one_mul] at hdigits hpower
  calc (2 ^ 53) ^ 2 * (Number.nearest m 1 * powerUnits power)
      = 2 ^ 53 * Number.nearest m 1 * (2 ^ 53 * Number.nearest (10 ^ power) 1) := by
        rw [powerUnits_eq]
        ring
    _ ≤ (2 ^ 53 + 1) * (m * Number.one) * ((2 ^ 53 + 1) * (10 ^ power * Number.one)) :=
        Nat.mul_le_mul hdigits hpower
    _ = (2 ^ 53 + 1) ^ 2 * (m * 10 ^ power * (Number.one * Number.one)) := by ring

/-- And it is little below. -/
theorem le_rounded_product (hm : 0 < m) (power : Nat) :
    (2 ^ 53 - 1) ^ 2 * (m * 10 ^ power * (Number.one * Number.one)) ≤
      (2 ^ 53) ^ 2 * (Number.nearest m 1 * powerUnits power) := by
  have hten : 0 < 10 ^ power := Nat.pow_pos (by decide)
  have hdigits := Number.le_nearest_mul Nat.one_pos (two_pow_le_mul_one hm)
  have hpower := Number.le_nearest_mul Nat.one_pos (two_pow_le_mul_one hten)
  simp only [Nat.one_mul] at hdigits hpower
  calc (2 ^ 53 - 1) ^ 2 * (m * 10 ^ power * (Number.one * Number.one))
      = (2 ^ 53 - 1) * (m * Number.one) * ((2 ^ 53 - 1) * (10 ^ power * Number.one)) := by ring
    _ ≤ 2 ^ 53 * Number.nearest m 1 * (2 ^ 53 * Number.nearest (10 ^ power) 1) :=
        Nat.mul_le_mul hdigits hpower
    _ = (2 ^ 53) ^ 2 * (Number.nearest m 1 * powerUnits power) := by
        rw [powerUnits_eq]
        ring

/-- A product a little below the limit is rounded to a finite number. -/
theorem rounded_product_lt_of_lt (h : m * 10 ^ power < 2 ^ 1024 - 2 ^ 973) :
    Number.nearest m 1 * powerUnits power < Number.one * Number.one * Number.overflowThreshold := by
  have hbound :
      (2 ^ 53 + 1) ^ 2 * (2 ^ 1024 - 2 ^ 973) ≤ (2 ^ 53) ^ 2 * Number.overflowThreshold := by
    decide +kernel
  have hthreshold : 0 < Number.overflowThreshold := by decide +kernel
  generalize 2 ^ 1024 - 2 ^ 973 = limit, Number.overflowThreshold = threshold at *
  rcases Nat.eq_zero_or_pos m with rfl | hm
  · rw [Number.nearest_zero, Nat.zero_mul]
    exact Nat.mul_pos one_mul_one_pos hthreshold
  refine Nat.lt_of_mul_lt_mul_left (a := (2 ^ 53) ^ 2) ?_
  calc (2 ^ 53) ^ 2 * (Number.nearest m 1 * powerUnits power)
      ≤ (2 ^ 53 + 1) ^ 2 * (m * 10 ^ power * (Number.one * Number.one)) :=
        rounded_product_le hm power
    _ < (2 ^ 53 + 1) ^ 2 * (limit * (Number.one * Number.one)) :=
        Nat.mul_lt_mul_of_pos_left (Nat.mul_lt_mul_of_pos_right h one_mul_one_pos) (by decide)
    _ = Number.one * Number.one * ((2 ^ 53 + 1) ^ 2 * limit) := by ring
    _ ≤ Number.one * Number.one * ((2 ^ 53) ^ 2 * threshold) := Nat.mul_le_mul_left _ hbound
    _ = (2 ^ 53) ^ 2 * (Number.one * Number.one * threshold) := by ring

/-- A product above the limit by a little more than the digits that are left is not. -/
theorem le_rounded_product_of_le
    (h : 2 ^ 60 * (2 ^ 1024 + 2 ^ 973) ≤ (2 ^ 60 + 1) * (m * 10 ^ power)) :
    Number.one * Number.one * Number.overflowThreshold ≤ Number.nearest m 1 * powerUnits power := by
  have hbound : (2 ^ 60 + 1) * ((2 ^ 53) ^ 2 * Number.overflowThreshold) ≤
      (2 ^ 53 - 1) ^ 2 * (2 ^ 60 * (2 ^ 1024 + 2 ^ 973)) := by
    decide +kernel
  have hlimit : 0 < 2 ^ 60 * (2 ^ 1024 + 2 ^ 973) := by decide +kernel
  generalize 2 ^ 60 * (2 ^ 1024 + 2 ^ 973) = limit, Number.overflowThreshold = threshold at *
  rcases Nat.eq_zero_or_pos m with rfl | hm
  · omega
  have hfactor : 0 < (2 ^ 60 + 1) * (2 ^ 53) ^ 2 := by decide
  refine Nat.le_of_mul_le_mul_left ?_ hfactor
  calc (2 ^ 60 + 1) * (2 ^ 53) ^ 2 * (Number.one * Number.one * threshold)
      = Number.one * Number.one * ((2 ^ 60 + 1) * ((2 ^ 53) ^ 2 * threshold)) := by ring
    _ ≤ Number.one * Number.one * ((2 ^ 53 - 1) ^ 2 * limit) := Nat.mul_le_mul_left _ hbound
    _ ≤ Number.one * Number.one * ((2 ^ 53 - 1) ^ 2 * ((2 ^ 60 + 1) * (m * 10 ^ power))) :=
        Nat.mul_le_mul_left _ (Nat.mul_le_mul_left _ h)
    _ = (2 ^ 60 + 1) * ((2 ^ 53 - 1) ^ 2 * (m * 10 ^ power * (Number.one * Number.one))) := by ring
    _ ≤ (2 ^ 60 + 1) * ((2 ^ 53) ^ 2 * (Number.nearest m 1 * powerUnits power)) :=
        Nat.mul_le_mul_left _ (le_rounded_product hm power)
    _ = (2 ^ 60 + 1) * (2 ^ 53) ^ 2 * (Number.nearest m 1 * powerUnits power) := by ring

/-- A bound on the exact value is one on what the numeral is cut to. -/
theorem CutsTo.mul_lt {limit : Nat} (h : CutsTo n m power) (hdigits : n.isAscii = true)
    (hlimit : (Decimal.ofNumeral n).numerator < limit * (Decimal.ofNumeral n).denominator) :
    m * 10 ^ power < limit := by
  have hvalue := h.le_value hdigits
  have hneg : (-(power : Int)).toNat = 0 := by omega
  rw [hneg, Nat.pow_zero, Nat.mul_one, Int.toNat_natCast] at hvalue
  exact Nat.lt_of_mul_lt_mul_right (Nat.lt_of_le_of_lt hvalue hlimit)

theorem CutsTo.le_mul {limit : Nat} (h : CutsTo n m p) (hdigits : n.isAscii = true)
    (hlimit : limit * (Decimal.ofNumeral n).denominator ≤ (Decimal.ofNumeral n).numerator) :
    2 ^ 60 * limit ≤ (2 ^ 60 + 1) * (m * 10 ^ p.toNat) := by
  have hden : 0 < (Decimal.ofNumeral n).denominator := Nat.pow_pos (by decide)
  refine Nat.le_of_mul_le_mul_right ?_ hden
  calc 2 ^ 60 * limit * (Decimal.ofNumeral n).denominator
      ≤ 2 ^ 60 * (Decimal.ofNumeral n).numerator := by
        rw [Nat.mul_assoc]
        exact Nat.mul_le_mul_left _ hlimit
    _ ≤ 2 ^ 60 * ((Decimal.ofNumeral n).numerator * 10 ^ (-p).toNat) :=
        Nat.mul_le_mul_left _ (Nat.le_mul_of_pos_right _ (Nat.pow_pos (by decide)))
    _ ≤ (2 ^ 60 + 1) * (m * 10 ^ p.toNat * (Decimal.ofNumeral n).denominator) :=
        h.value_le hdigits
    _ = (2 ^ 60 + 1) * (m * 10 ^ p.toNat) * (Decimal.ofNumeral n).denominator :=
        (Nat.mul_assoc _ _ _).symm

/-- A numeral with an exact value a little below the limit does not overflow. -/
theorem not_overflows_of_lt (hdigits : n.isAscii = true) (hwritten : writtenExponent n < 2 ^ 31)
    (h : (Decimal.ofNumeral n).numerator <
      (2 ^ 1024 - 2 ^ 973) * (Decimal.ofNumeral n).denominator) :
    ¬ Overflows n := by
  rintro (@⟨m, power, hcuts, -, hle⟩ | @⟨m, power, hcuts, -, hpos, hpower⟩ | ⟨-, hlarge, -⟩)
  · exact Nat.not_lt.2 hle (rounded_product_lt_of_lt (hcuts.mul_lt hdigits h))
  · refine Nat.not_lt.2 ?_ (hcuts.mul_lt hdigits h)
    calc 2 ^ 1024 - 2 ^ 973 ≤ 10 ^ (powerLimit + 1) := by decide +kernel
      _ ≤ 10 ^ power := Nat.pow_le_pow_right (by decide) hpower
      _ ≤ m * 10 ^ power := Nat.le_mul_of_pos_left _ hpos
  · exact absurd hwritten (Nat.not_lt.2 hlarge)

/-- A numeral with an exact value a little above the limit overflows. -/
theorem overflows_of_le (hdigits : n.isAscii = true) (hwritten : writtenExponent n < 2 ^ 31)
    (h : (2 ^ 1024 + 2 ^ 973) * (Decimal.ofNumeral n).denominator ≤
      (Decimal.ofNumeral n).numerator) :
    Overflows n := by
  obtain ⟨m, p, hcuts⟩ := exists_cutsTo n
  have hle := hcuts.le_mul hdigits h
  rcases Int.lt_or_le p 0 with hneg | hnonneg
  · -- Without a power of ten the digits are far below the limit.
    have hzero : p.toNat = 0 := by omega
    have hfar : (2 ^ 60 + 1) * 2 ^ 64 ≤ 2 ^ 60 * (2 ^ 1024 + 2 ^ 973) := by decide +kernel
    have hlt : (2 ^ 60 + 1) * (m * 10 ^ p.toNat) < (2 ^ 60 + 1) * 2 ^ 64 := by
      rw [hzero, Nat.pow_zero, Nat.mul_one]
      exact Nat.mul_lt_mul_of_pos_left hcuts.below (by decide)
    exact absurd (Nat.le_trans hfar hle) (Nat.not_le.2 hlt)
  · obtain ⟨power, rfl⟩ := Int.eq_ofNat_of_zero_le hnonneg
    exact .product hcuts hwritten (le_rounded_product_of_le hle)

/-- With an exponent that is too large, a numeral overflows unless it is zero or has a minus sign in
front of its exponent. -/
theorem overflows_iff_of_le (hdigits : n.isAscii = true) (hwritten : 2 ^ 31 ≤ writtenExponent n) :
    Overflows n ↔ (Decimal.ofNumeral n).coefficient ≠ 0 ∧ isSmall n = false := by
  obtain ⟨m, p, hcuts⟩ := exists_cutsTo n
  obtain ⟨k, -, hle, hge⟩ := hcuts.exact hdigits
  constructor
  · rintro (⟨-, hsmall, -⟩ | ⟨-, hsmall, -⟩ | ⟨hcuts', -, hpos, hsmall⟩)
    · exact absurd hwritten (Nat.not_le.2 hsmall)
    · exact absurd hwritten (Nat.not_le.2 hsmall)
    · obtain ⟨rfl, -⟩ := hcuts.unique hcuts'
      have hpow : 0 < m * 10 ^ k := Nat.mul_pos hpos (Nat.pow_pos (by decide))
      exact ⟨by omega, hsmall⟩
  · rintro ⟨hne, hsmall⟩
    refine .exponent hcuts hwritten (Nat.pos_of_ne_zero ?_) hsmall
    rintro rfl
    rw [Nat.zero_mul] at hge
    omega

end FormRules.Json
