import FormRules.Number.Shortest

/-!
# How numbers are written

A number is written with its shortest decimal.  Two layouts are in use.

* *Plain*: always positional, and a whole number has no point.  Values in
  messages and comparisons with literals use it.
* *Detailed*: positional from `0.0001` up to below `10¹⁶`, where a whole number
  ends in `.0`, and otherwise digits, a point after the first, and `e` with the
  exponent.  Log lines use it.

In both, the sign of zero is written, and the special numbers are `NaN`, `inf`
and `-inf`.
-/

namespace FormRules

/-- The choices of a layout of numbers. -/
structure NumberLayout where
  /-- What follows the digits of a whole number. -/
  wholeEnd : List Char
  /-- Whether a number whose first digit stands at this power of ten is written positionally. -/
  positional : Int → Bool

namespace NumberLayout

/-- Positional, without a point in whole numbers. -/
def plain : NumberLayout := ⟨[], fun _ => true⟩

/-- Positional near one, with a point in every number there. -/
def detailed : NumberLayout := ⟨['.', '0'], fun e => -5 < e && e < 16⟩

end NumberLayout

namespace Decimal

/-- The digits of the coefficient. -/
def digits (d : Decimal) : List Char := Nat.toDigits 10 d.coefficient

/-- The power of ten of the first digit. -/
def leading (d : Decimal) : Int := d.exponent + (d.digits.length - 1 : Nat)

/-- The decimal without an exponent. -/
def positional (wholeEnd : List Char) (d : Decimal) : List Char :=
  let ds := d.digits
  if 0 ≤ d.exponent then ds ++ List.replicate d.exponent.toNat '0' ++ wholeEnd
  else
    let places := (-d.exponent).toNat
    if places < ds.length then
      ds.take (ds.length - places) ++ '.' :: ds.drop (ds.length - places)
    else '0' :: '.' :: List.replicate (places - ds.length) '0' ++ ds

/-- The decimal with one digit before the point and an exponent. -/
def scientific (d : Decimal) : List Char :=
  let mantissa :=
    match d.digits with
    | [] => []
    | [c] => [c]
    | c :: rest => c :: '.' :: rest
  mantissa ++ 'e' :: (toString d.leading).toList

/-- The decimal, without its sign. -/
def write (layout : NumberLayout) (d : Decimal) : List Char :=
  if layout.positional d.leading then d.positional layout.wholeEnd else d.scientific

end Decimal

namespace Number

/-- The minus sign, if the number has it. -/
def signText (negative : Bool) : List Char := if negative then ['-'] else []

/-- A number in a layout. -/
def write (layout : NumberLayout) : Number → List Char
  | .nan => ['N', 'a', 'N']
  | .infinite s => signText s ++ ['i', 'n', 'f']
  | .finite s 0 => signText s ++ '0' :: layout.wholeEnd
  | .finite s u => signText s ++ (shortest u).write layout

/-- A number in the plain layout. -/
def text (n : Number) : String := String.ofList (n.write .plain)

/-- A number in the detailed layout. -/
def detail (n : Number) : String := String.ofList (n.write .detailed)

end Number

/-! ## Lemmas -/

theorem Decimal.minus_not_mem_positional (d : Decimal) : '-' ∉ d.positional [] := by
  have hdigits : '-' ∉ d.digits := by
    intro h
    cases Nat.isDigit_of_mem_toDigits (by decide) (by decide) h
  simp only [positional]
  split
  · simp [hdigits]
  · split
    · simp only [List.mem_append, List.mem_cons, not_or]
      exact ⟨fun h => hdigits (List.mem_of_mem_take h), by decide,
        fun h => hdigits (List.mem_of_mem_drop h)⟩
    · simp [hdigits]

theorem Number.eq_zero_of_minus_signText {s : Bool} {t : List Char} (ht : '-' ∉ t) {i : Nat}
    (h : (signText s ++ t)[i]? = some '-') : i = 0 := by
  cases s with
  | false => exact absurd (List.mem_of_getElem? h) ht
  | true =>
    cases i with
    | zero => rfl
    | succ i =>
      rw [signText, if_pos rfl, List.singleton_append, List.getElem?_cons_succ] at h
      exact absurd (List.mem_of_getElem? h) ht

/-- In the plain layout a minus sign stands in front of a number and nowhere else. -/
theorem Number.eq_zero_of_minus_write (n : Number) {i : Nat}
    (h : (n.write .plain)[i]? = some '-') : i = 0 := by
  unfold write at h
  split at h
  · exact absurd (List.mem_of_getElem? h) (by decide)
  · exact eq_zero_of_minus_signText (by decide) h
  · exact eq_zero_of_minus_signText (by decide) h
  · exact eq_zero_of_minus_signText (Decimal.minus_not_mem_positional _) h

end FormRules
