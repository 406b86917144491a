import FormRules.Json.Number
import FormRules.Proofs.Number.Decimal
import FormRules.Proofs.Number.Numeral
import Mathlib.Tactic.Ring

/-!
# The digits of a JSON numeral that count

Not all digits of a long numeral count when it is read.  They are used from the left as long as they
make a whole number below `2⁶⁴`, first those before the point and then those behind it (`Leads`).
The numeral is thereby cut to a whole number and a power of ten (`CutsTo`), in one way only.

*Digits that are left.*  One is left before the point only if the whole number is large.  A digit
behind the point may still be used then, if it is smaller than the first one that was left, and so
the whole number has digits that do not follow each other in the numeral.  They still make less than
the digits that were left (`Leads.used_le`).

*The exact value.*  What a numeral is cut to is not above its exact value, and it falls short of it
by at most one part in `2⁶⁰` (`CutsTo.le_value`, `CutsTo.value_le`).
-/

namespace FormRules

/-! ## Runs of digits -/

namespace Text

theorem digitValue_le {c : Char} (h : c.isDigit = true) : digitValue c ≤ 9 :=
  Nat.sub_le_of_le_add (Char.isDigit_iff_toNat.1 h).2

/-- Digits that are read after a number stand behind it. -/
theorem foldl_digitValue (n : Nat) (s : List Char) :
    s.foldl (fun n c => 10 * n + digitValue c) n = n * 10 ^ s.length + digitsValue s := by
  induction s generalizing n with
  | nil => simp [digitsValue]
  | cons c rest ih =>
    have hcons : digitsValue (c :: rest) = digitValue c * 10 ^ rest.length + digitsValue rest := by
      simpa [digitsValue] using ih (digitValue c)
    rw [List.foldl_cons, ih, hcons, List.length_cons, Nat.pow_succ', ← Nat.mul_assoc,
      Nat.mul_comm n 10, Nat.add_mul, Nat.add_assoc]

theorem digitsValue_cons (c : Char) (s : List Char) :
    digitsValue (c :: s) = digitValue c * 10 ^ s.length + digitsValue s := by
  rw [digitsValue, List.foldl_cons, foldl_digitValue, Nat.mul_zero, Nat.zero_add]

theorem digitsValue_append (s t : List Char) :
    digitsValue (s ++ t) = digitsValue s * 10 ^ t.length + digitsValue t := by
  rw [digitsValue, List.foldl_append, foldl_digitValue]
  rfl

theorem digitsValue_lt {s : List Char} (h : ∀ c ∈ s, c.isDigit = true) :
    digitsValue s < 10 ^ s.length := by
  induction s with
  | nil => decide
  | cons c rest ih =>
    obtain ⟨hc, hrest⟩ := List.forall_mem_cons.1 h
    have hle : digitValue c * 10 ^ rest.length ≤ 9 * 10 ^ rest.length :=
      Nat.mul_le_mul_right _ (digitValue_le hc)
    have hlt := ih hrest
    rw [digitsValue_cons, List.length_cons, Nat.pow_succ]
    omega

end Text

namespace Json

variable {n : Numeral} {m m' start : Nat} {p p' : Int} {ds left : List Char}

/-! ## The digits that count -/

/-- The whole number `m` is `start` with digits behind it, as many of `ds` as keep it below `2⁶⁴`.
The others are left. -/
structure Leads (start : Nat) (ds : List Char) (m : Nat) (left : List Char) : Prop where
  taken : ∃ ts, ds = ts ++ left ∧ m = start * 10 ^ ts.length + Text.digitsValue ts
  below : m < 2 ^ 64
  most : ∀ c rest, left = c :: rest → 2 ^ 64 ≤ 10 * m + Text.digitValue c

theorem le_significandLimit_iff : m ≤ significandLimit ↔ m < 2 ^ 64 := by
  have hlimit : significandLimit + 1 = 2 ^ 64 := by decide
  omega

/-- The first digit of some behind a number goes with the number. -/
theorem value_cons (start : Nat) (c : Char) (ts : List Char) :
    start * 10 ^ (c :: ts).length + Text.digitsValue (c :: ts) =
      (10 * start + Text.digitValue c) * 10 ^ ts.length + Text.digitsValue ts := by
  rw [Text.digitsValue_cons, List.length_cons]
  ring

theorem le_value (start : Nat) (ts : List Char) :
    start ≤ start * 10 ^ ts.length + Text.digitsValue ts :=
  Nat.le_trans (Nat.le_mul_of_pos_right start (Nat.pow_pos (by decide))) (Nat.le_add_right _ _)

theorem Leads.extend_eq (h : Leads start ds m left) : extend start ds = (m, left) := by
  induction ds generalizing start with
  | nil =>
    obtain ⟨⟨ts, hts, rfl⟩, -, -⟩ := h
    obtain ⟨rfl, rfl⟩ := List.append_eq_nil_iff.1 hts.symm
    simp [extend, Text.digitsValue]
  | cons c rest ih =>
    obtain ⟨⟨ts, hts, hm⟩, hbelow, hmost⟩ := h
    rw [extend]
    cases ts with
    | nil =>
      obtain rfl : m = start := by simpa [Text.digitsValue] using hm
      have hstop := hmost c rest hts.symm
      rw [if_neg (by rw [le_significandLimit_iff]; omega), hts, List.nil_append]
    | cons d ts =>
      obtain ⟨rfl, hrest⟩ := List.cons.inj hts
      rw [value_cons] at hm
      have hnext := le_value (10 * start + Text.digitValue c) ts
      rw [if_pos (by rw [le_significandLimit_iff]; omega)]
      exact ih ⟨⟨ts, hrest, hm⟩, hbelow, hmost⟩

theorem leads_extend (h : start < 2 ^ 64) (ds : List Char) :
    Leads start ds (extend start ds).1 (extend start ds).2 := by
  induction ds generalizing start with
  | nil => exact ⟨⟨[], rfl, by simp [extend, Text.digitsValue]⟩, h, nofun⟩
  | cons c rest ih =>
    rw [extend]
    split
    case isTrue hnext =>
      obtain ⟨⟨ts, hts, hm⟩, hbelow, hmost⟩ := ih (le_significandLimit_iff.1 hnext)
      exact ⟨⟨c :: ts, by rw [List.cons_append, ← hts], by rw [hm, value_cons]⟩, hbelow, hmost⟩
    case isFalse hnext =>
      refine ⟨⟨[], rfl, by simp [Text.digitsValue]⟩, h, ?_⟩
      rintro d ds heq
      obtain ⟨rfl, rfl⟩ := List.cons.inj heq
      rw [le_significandLimit_iff] at hnext
      exact Nat.not_lt.1 hnext

/-- The digits that are used and those that are left make up the value of all. -/
theorem Leads.value_eq (h : Leads start ds m left) :
    start * 10 ^ ds.length + Text.digitsValue ds =
      m * 10 ^ left.length + Text.digitsValue left := by
  obtain ⟨⟨ts, rfl, rfl⟩, -, -⟩ := h
  rw [Text.digitsValue_append, List.length_append]
  ring

theorem Leads.mem {c : Char} (h : Leads start ds m left) (hc : c ∈ left) : c ∈ ds := by
  obtain ⟨⟨ts, rfl, -⟩, -, -⟩ := h
  exact List.mem_append_right ts hc

/-- If digits are left, the whole number is large. -/
theorem Leads.two_pow_le (h : Leads start ds m left) (hleft : left ≠ [])
    (hdigits : ∀ c ∈ ds, c.isDigit = true) : 2 ^ 60 ≤ m := by
  obtain ⟨⟨ts, rfl, -⟩, -, hmost⟩ := h
  obtain ⟨c, rest, rfl⟩ := List.exists_cons_of_ne_nil hleft
  have hdigit := Text.digitValue_le (hdigits c (by simp))
  have hstop := hmost c rest rfl
  omega

/-- What is started from is not more than the outcome. -/
theorem Leads.start_le (h : Leads start ds m left) :
    start * 10 ^ ds.length ≤ m * 10 ^ left.length := by
  obtain ⟨⟨ts, rfl, rfl⟩, -, -⟩ := h
  rw [List.length_append, Nat.pow_add, ← Nat.mul_assoc]
  exact Nat.mul_le_mul_right _ (Nat.le_add_right _ _)

/-- The digits behind the point that are used make less than those before it that are left, if any
are left. -/
theorem Leads.used_le {dropped ts : List Char} (h : Leads 0 ds start dropped)
    (hdigits : ∀ c ∈ ts, c.isDigit = true)
    (hbelow : start * 10 ^ ts.length + Text.digitsValue ts < 2 ^ 64) :
    Text.digitsValue ts * 10 ^ dropped.length ≤
      Text.digitsValue dropped * 10 ^ ts.length + Text.digitsValue ts := by
  match dropped, ts with
  | [], ts => simp
  | _ :: _, [] => simp [Text.digitsValue]
  | c :: rest, d :: ts =>
    -- Both would be the next digit of the same number, and only the one behind the point fits.
    have hstop := h.most c rest rfl
    have hdigit : Text.digitValue d < Text.digitValue c := by
      rw [value_cons] at hbelow
      have hnext := le_value (10 * start + Text.digitValue d) ts
      omega
    have hlt := Text.digitsValue_lt (List.forall_mem_cons.1 hdigits).2
    calc Text.digitsValue (d :: ts) * 10 ^ (c :: rest).length
        ≤ (Text.digitValue d + 1) * 10 ^ ts.length * 10 ^ (c :: rest).length := by
          refine Nat.mul_le_mul_right _ ?_
          rw [Text.digitsValue_cons, Nat.succ_mul]
          omega
      _ ≤ Text.digitValue c * 10 ^ ts.length * 10 ^ (c :: rest).length :=
          Nat.mul_le_mul_right _ (Nat.mul_le_mul_right _ hdigit)
      _ = Text.digitValue c * 10 ^ rest.length * 10 ^ (d :: ts).length := by
          simp only [List.length_cons]
          ring
      _ ≤ Text.digitsValue (c :: rest) * 10 ^ (d :: ts).length := by
          refine Nat.mul_le_mul_right _ ?_
          rw [Text.digitsValue_cons]
          exact Nat.le_add_right _ _
      _ ≤ _ := Nat.le_add_right _ _

/-- What is taken in two steps is not more than all the digits. -/
theorem Leads.taken_le {ws fs dropped : List Char} {whole : Nat} (hwhole : Leads 0 ws whole dropped)
    (hfraction : Leads whole fs m left) (hfs : ∀ c ∈ fs, c.isDigit = true) :
    m * 10 ^ (dropped.length + left.length) ≤
      Text.digitsValue ws * 10 ^ fs.length + Text.digitsValue fs := by
  have hvalue := hwhole.value_eq
  rw [Nat.zero_mul, Nat.zero_add] at hvalue
  obtain ⟨⟨ts, rfl, rfl⟩, hbelow, -⟩ := hfraction
  have hused := hwhole.used_le (fun c hc => hfs c (List.mem_append_left left hc)) hbelow
  have hle := Nat.mul_le_mul_right (10 ^ left.length) hused
  rw [hvalue, Text.digitsValue_append, List.length_append]
  calc (whole * 10 ^ ts.length + Text.digitsValue ts) * 10 ^ (dropped.length + left.length)
      = whole * 10 ^ dropped.length * 10 ^ (ts.length + left.length) +
          Text.digitsValue ts * 10 ^ dropped.length * 10 ^ left.length := by ring
    _ ≤ whole * 10 ^ dropped.length * 10 ^ (ts.length + left.length) +
          (Text.digitsValue dropped * 10 ^ ts.length + Text.digitsValue ts) * 10 ^ left.length +
            Text.digitsValue left := by omega
    _ = _ := by ring

/-- Behind a large whole number, a rest is at most one part in `2⁶⁰`. -/
theorem mul_add_le {b t r : Nat} (hb : 2 ^ 60 ≤ b) (hr : r ≤ t) :
    2 ^ 60 * (b * t + r) ≤ (2 ^ 60 + 1) * (b * t) := by
  have hpart : 2 ^ 60 * r ≤ b * t := Nat.mul_le_mul hb hr
  omega

/-- What is taken in two steps falls short of all the digits by at most one part in `2⁶⁰`. -/
theorem Leads.le_taken {ws fs dropped : List Char} {whole : Nat} (hwhole : Leads 0 ws whole dropped)
    (hfraction : Leads whole fs m left) (hws : ∀ c ∈ ws, c.isDigit = true)
    (hfs : ∀ c ∈ fs, c.isDigit = true) :
    2 ^ 60 * (Text.digitsValue ws * 10 ^ fs.length + Text.digitsValue fs) ≤
      (2 ^ 60 + 1) * (m * 10 ^ (dropped.length + left.length)) := by
  have hvalue := hwhole.value_eq
  rw [Nat.zero_mul, Nat.zero_add] at hvalue
  rcases eq_or_ne dropped [] with rfl | hdropped
  · have hall : Text.digitsValue ws * 10 ^ fs.length + Text.digitsValue fs =
        m * 10 ^ left.length + Text.digitsValue left := by
      rw [← hfraction.value_eq, hvalue]
      simp [Text.digitsValue]
    rw [hall, List.length_nil, Nat.zero_add]
    rcases eq_or_ne left [] with rfl | hleft
    · simp only [Text.digitsValue, List.foldl_nil, Nat.add_zero]
      omega
    · exact mul_add_le (hfraction.two_pow_le hleft hfs)
        (Nat.le_of_lt (Text.digitsValue_lt fun c hc => hfs c (hfraction.mem hc)))
  · have hrest : Text.digitsValue dropped * 10 ^ fs.length + Text.digitsValue fs ≤
        10 ^ dropped.length * 10 ^ fs.length := by
      have hlt := Text.digitsValue_lt fun c hc => hws c (hwhole.mem hc)
      have hlt' := Text.digitsValue_lt hfs
      have hle := Nat.mul_le_mul_right (10 ^ fs.length) (Nat.succ_le_of_lt hlt)
      rw [Nat.succ_mul] at hle
      omega
    calc 2 ^ 60 * (Text.digitsValue ws * 10 ^ fs.length + Text.digitsValue fs)
        = 2 ^ 60 * (whole * (10 ^ dropped.length * 10 ^ fs.length) +
            (Text.digitsValue dropped * 10 ^ fs.length + Text.digitsValue fs)) := by
          rw [hvalue]
          ring
      _ ≤ (2 ^ 60 + 1) * (whole * (10 ^ dropped.length * 10 ^ fs.length)) :=
          mul_add_le (hwhole.two_pow_le hdropped hws) hrest
      _ = (2 ^ 60 + 1) * (whole * 10 ^ fs.length * 10 ^ dropped.length) := by ring
      _ ≤ (2 ^ 60 + 1) * (m * 10 ^ left.length * 10 ^ dropped.length) :=
          Nat.mul_le_mul_left _ (Nat.mul_le_mul_right _ hfraction.start_le)
      _ = (2 ^ 60 + 1) * (m * 10 ^ (dropped.length + left.length)) := by ring

/-- The numeral is cut to `m · 10 ^ p`.  Every digit that is left counts for the power. -/
inductive CutsTo (n : Numeral) : Nat → Int → Prop where
  | digits {whole m : Nat} {dropped left : List Char} :
      Leads 0 n.whole whole dropped → Leads whole (n.fraction.getD []) m left →
        CutsTo n m (dropped.length + left.length + (Decimal.ofNumeral n).exponent)

/-- Every numeral is cut in one way. -/
theorem exists_cutsTo (n : Numeral) : ∃ m p, CutsTo n m p := by
  have hwhole := leads_extend (Nat.two_pow_pos 64) n.whole
  exact ⟨_, _, .digits hwhole (leads_extend hwhole.below _)⟩

theorem CutsTo.unique (h : CutsTo n m p) (h' : CutsTo n m' p') : m = m' ∧ p = p' := by
  obtain ⟨hwhole, hfraction⟩ := h
  obtain ⟨hwhole', hfraction'⟩ := h'
  have heq := hwhole.extend_eq.symm.trans hwhole'.extend_eq
  cases heq
  have heq := hfraction.extend_eq.symm.trans hfraction'.extend_eq
  cases heq
  exact ⟨rfl, rfl⟩

theorem coefficient_ofNumeral (n : Numeral) :
    (Decimal.ofNumeral n).coefficient =
      Text.digitsValue n.whole * 10 ^ (n.fraction.getD []).length +
        Text.digitsValue (n.fraction.getD []) := Text.digitsValue_append _ _

/-- What the numeral is cut to falls short of its exact value by at most one part in `2⁶⁰`. -/
theorem CutsTo.exact (h : CutsTo n m p) (hdigits : n.isAscii = true) :
    ∃ k : Nat, p = k + (Decimal.ofNumeral n).exponent ∧
      m * 10 ^ k ≤ (Decimal.ofNumeral n).coefficient ∧
      2 ^ 60 * (Decimal.ofNumeral n).coefficient ≤ (2 ^ 60 + 1) * (m * 10 ^ k) := by
  obtain ⟨hws, hfs, -⟩ := (Numeral.isAscii_iff n).1 hdigits
  obtain @⟨_, _, dropped, left, hwhole, hfraction⟩ := h
  refine ⟨dropped.length + left.length, by rw [Nat.cast_add], ?_⟩
  rw [coefficient_ofNumeral]
  exact ⟨hwhole.taken_le hfraction hfs, hwhole.le_taken hfraction hws hfs⟩

theorem CutsTo.below (h : CutsTo n m p) : m < 2 ^ 64 := by
  obtain ⟨-, hfraction⟩ := h
  exact hfraction.below

/-- What the numeral is cut to is not above its exact value. -/
theorem CutsTo.le_value (h : CutsTo n m p) (hdigits : n.isAscii = true) :
    m * 10 ^ p.toNat * (Decimal.ofNumeral n).denominator ≤
      (Decimal.ofNumeral n).numerator * 10 ^ (-p).toNat := by
  obtain ⟨k, hp, hle, -⟩ := h.exact hdigits
  rw [Decimal.numerator, Decimal.denominator]
  generalize (Decimal.ofNumeral n).exponent = e, (Decimal.ofNumeral n).coefficient = c at *
  have hplaces : p.toNat + (-e).toNat = k + (e.toNat + (-p).toNat) := by omega
  calc m * 10 ^ p.toNat * 10 ^ (-e).toNat
      = m * 10 ^ k * 10 ^ (e.toNat + (-p).toNat) := by
        rw [Nat.mul_assoc, ← Nat.pow_add, hplaces, Nat.pow_add, ← Nat.mul_assoc]
    _ ≤ c * 10 ^ (e.toNat + (-p).toNat) := Nat.mul_le_mul_right _ hle
    _ = c * 10 ^ e.toNat * 10 ^ (-p).toNat := by rw [Nat.pow_add, ← Nat.mul_assoc]

/-- It falls short of it by at most one part in `2⁶⁰`. -/
theorem CutsTo.value_le (h : CutsTo n m p) (hdigits : n.isAscii = true) :
    2 ^ 60 * ((Decimal.ofNumeral n).numerator * 10 ^ (-p).toNat) ≤
      (2 ^ 60 + 1) * (m * 10 ^ p.toNat * (Decimal.ofNumeral n).denominator) := by
  obtain ⟨k, hp, -, hle⟩ := h.exact hdigits
  rw [Decimal.numerator, Decimal.denominator]
  generalize (Decimal.ofNumeral n).exponent = e, (Decimal.ofNumeral n).coefficient = c at *
  have hplaces : p.toNat + (-e).toNat = k + (e.toNat + (-p).toNat) := by omega
  calc 2 ^ 60 * (c * 10 ^ e.toNat * 10 ^ (-p).toNat)
      = 2 ^ 60 * c * 10 ^ (e.toNat + (-p).toNat) := by
        rw [Nat.pow_add, ← Nat.mul_assoc, ← Nat.mul_assoc, ← Nat.mul_assoc]
    _ ≤ (2 ^ 60 + 1) * (m * 10 ^ k) * 10 ^ (e.toNat + (-p).toNat) := Nat.mul_le_mul_right _ hle
    _ = (2 ^ 60 + 1) * (m * 10 ^ p.toNat * 10 ^ (-e).toNat) := by
        rw [Nat.mul_assoc, Nat.mul_assoc, Nat.mul_assoc, ← Nat.pow_add, ← Nat.pow_add, hplaces]

end Json

end FormRules
