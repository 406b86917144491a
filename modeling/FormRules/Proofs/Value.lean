import FormRules.Proofs.Number.Decimal
import FormRules.Proofs.Number.Numeral
import FormRules.Value

/-!
# What values measure

*Digits.*  The length of a text of ASCII digits is read as a number, and a reader
of numbers can fail.  On a run of digits it does not: the run is a numeral without
a sign, a point and an exponent (`Decimal.read?_of_digits`).  So the length is the
number that the digits write, rounded, and it is zero only if all digits are
(`Value.zero_lt_textLength_iff`).  Rounding does not make a zero of anything else,
and a number beyond the finite ones is not a failure either.

*Blank values.*  Whether a value is blank is asked without normalizing it.  The
answer is that of normalizing (`Value.isBlank_iff`).
-/

namespace FormRules

/-! ## Digits -/

namespace Decimal

/-- A run of digits is read as the number that it writes. -/
theorem read?_of_digits {ds : List Char} (hne : ds ≠ []) (hds : ∀ c ∈ ds, c.isDigit = true) :
    read? ds = some ⟨false, Text.digitsValue ds, 0⟩ := by
  have hwrites : Numeral.Writes Char.isDigit ⟨none, ds, none, none⟩ ([] ++ (ds ++ [])) :=
    .parts .none (.whole hne hds) .none
  have hscan := Numeral.scan_of_writes Numeral.digitClass_isDigit hwrites
  rw [List.nil_append, List.append_nil] at hscan
  rw [read?, hscan]
  simp [ofNumeral]

theorem toNumber_whole (n : Nat) : toNumber ⟨false, n, 0⟩ = .ofNat n := by
  rw [toNumber_eq_ofRatio, Number.ofNat]
  simp [numerator, denominator]

end Decimal

namespace Value

theorem textLength_of_digits {s : List Char} (hne : s ≠ []) (hds : ∀ c ∈ s, c.isDigit = true) :
    textLength s = .ofNat (Text.digitsValue s) := by
  have hdigits : (!s.isEmpty && Text.allDigits s) = true := by
    simpa [hne, Text.allDigits_iff] using hds
  rw [textLength, if_pos hdigits, Decimal.read?_of_digits hne hds, Option.elim_some,
    Decimal.toNumber_whole]

/-- A text is a run of digits, or its length is the count of its characters. -/
theorem textLength_cases (s : List Char) :
    (s ≠ [] ∧ (∀ c ∈ s, c.isDigit = true) ∧ textLength s = .ofNat (Text.digitsValue s)) ∨
      ((s = [] ∨ ∃ c ∈ s, c.isDigit = false) ∧ textLength s = .ofNat s.length) := by
  by_cases h : (!s.isEmpty && Text.allDigits s) = true
  · have hdigits : s ≠ [] ∧ ∀ c ∈ s, c.isDigit = true := by
      simpa [Text.allDigits_iff] using h
    exact .inl ⟨hdigits.1, hdigits.2, textLength_of_digits hdigits.1 hdigits.2⟩
  · have hother : s = [] ∨ ∃ c ∈ s, c.isDigit = false := by
      simpa [Text.allDigits, imp_iff_not_or] using h
    refine .inr ⟨hother, ?_⟩
    rw [textLength, if_neg h]

theorem textLength_ne_nan (s : List Char) : textLength s ≠ .nan := by
  rcases textLength_cases s with ⟨-, -, h⟩ | ⟨-, h⟩
  · rw [h]
    exact Number.ofRatio_ne_nan _ _ _
  · rw [h]
    exact Number.ofRatio_ne_nan _ _ _

/-- The length of a text is above zero if some character of it is not the digit zero. -/
theorem zero_lt_textLength_iff (s : List Char) :
    Number.zero < textLength s ↔ ∃ c ∈ s, c ≠ '0' := by
  rcases textLength_cases s with ⟨-, hdigits, h⟩ | ⟨rfl | ⟨c, hc, hdigit⟩, h⟩
  · rw [h, Number.zero_lt_ofNat_iff, Nat.pos_iff_ne_zero, ne_eq,
      Text.digitsValue_eq_zero_iff hdigits]
    simp only [not_forall, exists_prop]
  · rw [h, Number.zero_lt_ofNat_iff]
    simp
  · -- A character that is no digit is not the digit zero, and it counts as one.
    have hzero : c ≠ '0' := by
      rintro rfl
      cases hdigit
    rw [h, Number.zero_lt_ofNat_iff]
    exact ⟨fun _ => ⟨c, hc, hzero⟩, fun _ => List.length_pos_of_mem hc⟩

/-! ## Blank values -/

/-- A value is blank if normalizing makes the empty text of it. -/
theorem isBlank_iff (v : Value) : v.isBlank = true ↔ v.normalize = .text "" := by
  cases v with
  | number n => simp [isBlank, normalize]
  | text s =>
    have hempty : String.ofList (Text.trim s.toList) = "" ↔ Text.trim s.toList = [] := by
      rw [← String.toList_inj, String.toList_ofList]
      rfl
    rw [isBlank, normalize, text.injEq, hempty, Text.trim_eq_nil_iff, List.all_eq_true]
  | missing => simp [isBlank, normalize]

end Value

/-- A field is absent or blank if validators are given the empty text for it. -/
theorem Record.all_isBlank_iff (record : Record) (field : String) :
    (record.get? field).all Value.isBlank = true ↔ record.normalized field = .text "" := by
  rw [normalized]
  cases record.get? field with
  | none => simp [Value.normalize]
  | some v => simp [Value.isBlank_iff]

end FormRules
