import FormRules.Builtin.Bound
import FormRules.Proofs.Number.Decimal
import FormRules.Proofs.Number.Numeral

/-!
# What a bound is

A lenient reading of an argument skips white space and gives the value of the
longest numeral in ASCII digits behind it, whatever follows the numeral.  It gives
not-a-number if there is no argument or no such numeral (`Bound.Lenient`).

A bound is read leniently unless a digit of another script is in the way
(`Bound.ofArgument_lenient_iff`).  The numeral is looked for in the decimal digits of
all scripts.  If the longest one is in ASCII digits, it is also the longest one in
ASCII digits, and the bound is its value.  But if a digit of another script follows
the longest one in ASCII digits, it becomes part of the numeral, which then has no
value.  So the bound is not a number (`Bound.ofArgument_not_lenient`), and no length
passes.
-/

namespace FormRules

/-- The number that a numeral in ASCII digits writes, its exact value rounded. -/
def Numeral.value (n : Numeral) : Number :=
  let d := Decimal.ofNumeral n
  .ofRatio d.negative d.numerator d.denominator

theorem Numeral.value_ne_nan (n : Numeral) : n.value ≠ .nan :=
  Number.ofRatio_ne_nan _ _ _

namespace Bound

/-! ## Lenient reading -/

/-- The text is white space or none, and then writes a numeral. -/
inductive Reads (digit : Char → Bool) (n : Numeral) : List Char → Prop where
  | skip {blanks p : List Char} :
      (∀ c ∈ blanks, Text.isBlank c = true) → n.Writes digit p → Reads digit n (blanks ++ p)

/-- The longest text at the front of another that is read as a numeral. -/
structure Longest (digit : Char → Bool) (s : List Char) (n : Numeral) (p : List Char) : Prop where
  front : p <+: s
  reads : Reads digit n p
  longest : ∀ m q, q <+: s → Reads digit m q → q.length ≤ p.length

/-- The number is what a lenient reading of an argument gives, in some kind of digits. -/
structure Lenient (digit : Char → Bool) (arg : Option String) (x : Number) : Prop where
  /-- Of all numerals at the front there is a longest one. -/
  found : ∀ a m q, arg = some a → q <+: a.toList → Reads digit m q →
    ∃ n p, Longest digit a.toList n p
  /-- The number is its value. -/
  value : ∀ a n p, arg = some a → Longest digit a.toList n p → x = n.value
  /-- Without an argument or a numeral it is not a number, and else it is one. -/
  nan : x = .nan ↔ ∀ a n p, arg = some a → p <+: a.toList → ¬ Reads digit n p

/-! ## The scan finds the longest numeral -/

open Numeral (DigitClass)

variable {digit : Char → Bool} {s p q rest : List Char} {n m : Numeral}

/-- Trimming takes off the white space before a numeral and no more. -/
theorem Reads.trimStart (cls : DigitClass digit) (h : Reads digit n p) (rest : List Char) :
    ∃ w, n.Writes digit w ∧ Text.trimStart (p ++ rest) = w ++ rest := by
  obtain @⟨blanks, w, hblanks, hw⟩ := h
  refine ⟨w, hw, ?_⟩
  obtain ⟨c, t, rfl, hc⟩ := hw.exists_cons cls
  rw [Text.trimStart, List.append_assoc, List.dropWhile_append_of_pos hblanks, List.cons_append,
    List.dropWhile_cons_of_neg (by simp [hc])]

theorem Reads.unique (cls : DigitClass digit) (hn : Reads digit n p) (hm : Reads digit m p) :
    n = m := by
  obtain ⟨w, hw, htrim⟩ := hn.trimStart cls []
  obtain ⟨w', hw', htrim'⟩ := hm.trimStart cls []
  rw [htrim, List.append_nil, List.append_nil] at htrim'
  subst htrim'
  exact hw.unique cls hw'

theorem Longest.unique (cls : DigitClass digit) (hn : Longest digit s n p)
    (hm : Longest digit s m q) : n = m := by
  have hlength : p.length = q.length :=
    Nat.le_antisymm (hm.longest n p hn.front hn.reads) (hn.longest m q hm.front hm.reads)
  obtain rfl : p = q :=
    (List.prefix_of_prefix_length_le hn.front hm.front hlength.le).eq_of_length hlength
  exact hn.reads.unique cls hm.reads

/-- If a numeral is at the front, the scan behind the white space takes as much or more. -/
theorem scan_of_reads (cls : DigitClass digit) (h : Reads digit n p) (rest : List Char) :
    ∃ m r, Numeral.scan digit (Text.trimStart (p ++ rest)) = some (m, r) ∧
      r.length ≤ rest.length := by
  obtain ⟨w, hw, htrim⟩ := h.trimStart cls rest
  rw [htrim]
  exact Numeral.scan_append cls hw rest

/-- What the scan takes, with the white space before it, is the longest numeral. -/
theorem longest_of_scan (cls : DigitClass digit)
    (h : Numeral.scan digit (Text.trimStart s) = some (n, rest)) :
    ∃ p, Longest digit s n p := by
  obtain ⟨w, hw, htrim⟩ := Numeral.exists_writes_of_scan cls h
  have hs : s = s.takeWhile Text.isBlank ++ w ++ rest := by
    rw [List.append_assoc, ← htrim, Text.trimStart, List.takeWhile_append_dropWhile]
  refine ⟨s.takeWhile Text.isBlank ++ w, ⟨rest, hs.symm⟩, ?_, ?_⟩
  · exact .skip (fun c hc => List.mem_takeWhile_imp hc) hw
  · intro m q hq hreads
    obtain ⟨r, rfl⟩ := hq
    obtain ⟨m', r', hscan, hr⟩ := scan_of_reads cls hreads r
    rw [h] at hscan
    cases hscan
    have hlength := congrArg List.length hs
    simp only [List.length_append] at hlength ⊢
    omega

theorem exists_longest (cls : DigitClass digit) (hp : p <+: s) (h : Reads digit n p) :
    ∃ m q, Longest digit s m q := by
  obtain ⟨rest, rfl⟩ := hp
  obtain ⟨m, r, hscan, -⟩ := scan_of_reads cls h rest
  exact ⟨m, longest_of_scan cls hscan⟩

theorem Longest.scan (cls : DigitClass digit) (h : Longest digit s n p) :
    ∃ rest, Numeral.scan digit (Text.trimStart s) = some (n, rest) := by
  obtain ⟨rest, rfl⟩ := h.front
  obtain ⟨m, r, hscan, -⟩ := scan_of_reads cls h.reads rest
  obtain ⟨q, hq⟩ := longest_of_scan cls hscan
  obtain rfl := h.unique cls hq
  exact ⟨r, hscan⟩

/-! ## Two kinds of digits -/

theorem Reads.isAscii_iff (h : Reads digit n p) :
    n.isAscii = true ↔ Reads Char.isDigit n p := by
  constructor
  · intro hascii
    obtain ⟨hblanks, hw⟩ := h
    exact .skip hblanks (hw.isAscii_iff.1 hascii)
  · rintro ⟨-, hw⟩
    exact hw.isAscii_iff.2 hw

/-- A numeral in ASCII digits is one in the digits of all scripts. -/
theorem Reads.isDecimal (h : Reads Char.isDigit n p) : Reads Text.isDecimal n p := by
  obtain ⟨hblanks, hw⟩ := h
  exact .skip hblanks (hw.mono fun _ => Text.isDecimal_of_isDigit)

/-- The longest numeral of all is the longest in ASCII digits if it is in ASCII digits. -/
theorem Longest.isDigit (h : Longest Text.isDecimal s n p) (hreads : Reads Char.isDigit n p) :
    Longest Char.isDigit s n p :=
  ⟨h.front, hreads, fun m q hq hm => h.longest m q hq hm.isDecimal⟩

/-! ## Bounds -/

theorem ofText_of_longest (h : Longest Text.isDecimal s n p) :
    ofText s = if n.isAscii then n.value else .nan := by
  obtain ⟨rest, hscan⟩ := h.scan Numeral.digitClass_isDecimal
  rw [ofText, hscan]
  simp only [Decimal.toNumber_eq_ofRatio, Numeral.value]

theorem ofText_of_no_numeral (h : ∀ n p, p <+: s → ¬ Reads Text.isDecimal n p) :
    ofText s = .nan := by
  cases hscan : Numeral.scan Text.isDecimal (Text.trimStart s) with
  | none => rw [ofText, hscan]
  | some cut =>
    obtain ⟨n, rest⟩ := cut
    obtain ⟨p, hp⟩ := longest_of_scan Numeral.digitClass_isDecimal hscan
    exact absurd hp.reads (h n p hp.front)

theorem lenient_none : Lenient digit none .nan := by
  constructor
  · intro a m q h
    cases h
  · intro a n p h
    cases h
  · simp

theorem ofText_of_other_digit (h : Longest Text.isDecimal s n p)
    (other : ¬ Reads Char.isDigit n p) : ofText s = .nan := by
  rw [ofText_of_longest h, if_neg (mt h.reads.isAscii_iff.1 other)]

/-- The longest numeral of a text is in ASCII digits if any numeral in it is. -/
def AsciiFirst (s : List Char) : Prop :=
  ∀ n p m q, Longest Text.isDecimal s n p → q <+: s → Reads Char.isDigit m q →
    Reads Char.isDigit n p

theorem AsciiFirst.ofText_eq (ascii : AsciiFirst s) (h : Longest Char.isDigit s n p) :
    ofText s = n.value := by
  obtain ⟨m, q, hall⟩ := exists_longest Numeral.digitClass_isDecimal h.front h.reads.isDecimal
  have hdigit := ascii m q n p hall h.front h.reads
  obtain rfl := (hall.isDigit hdigit).unique Numeral.digitClass_isDigit h
  rw [ofText_of_longest hall, if_pos (hall.reads.isAscii_iff.2 hdigit)]

theorem ofText_of_no_ascii (h : ∀ n p, p <+: s → ¬ Reads Char.isDigit n p) :
    ofText s = .nan := by
  by_cases hany : ∃ n p, Longest Text.isDecimal s n p
  · obtain ⟨n, p, hall⟩ := hany
    exact ofText_of_other_digit hall (h n p hall.front)
  · refine ofText_of_no_numeral fun n p hp hreads => hany ?_
    exact exists_longest Numeral.digitClass_isDecimal hp hreads

theorem AsciiFirst.lenient {a : String} (ascii : AsciiFirst a.toList) :
    Lenient Char.isDigit (some a) (ofText a.toList) := by
  have cls := Numeral.digitClass_isDigit
  refine ⟨?_, ?_, ?_, ?_⟩
  · rintro _ m q ⟨⟩ hq hreads
    exact exists_longest cls hq hreads
  · rintro _ n p ⟨⟩ h
    exact ascii.ofText_eq h
  · rintro hnan _ m q ⟨⟩ hq hreads
    obtain ⟨n, p, h⟩ := exists_longest cls hq hreads
    exact n.value_ne_nan ((ascii.ofText_eq h).symm.trans hnan)
  · intro hnone
    exact ofText_of_no_ascii fun n p => hnone a n p rfl

theorem Lenient.asciiFirst {a : String}
    (lenient : Lenient Char.isDigit (some a) (ofText a.toList)) : AsciiFirst a.toList := by
  intro n p m q hall hq hreads
  by_contra other
  exact lenient.nan.1 (ofText_of_other_digit hall other) a m q rfl hq hreads

/-- A bound is read leniently exactly if the longest numeral of the argument is in ASCII digits, or no
numeral in it is.  Else the bound is not a number, although the argument begins with one. -/
theorem ofArgument_lenient_iff (args : List String) (index : Nat) :
    (Lenient Char.isDigit args[index]? (ofArgument args index) ↔
        ∀ a, args[index]? = some a → AsciiFirst a.toList) ∧
      (¬ Lenient Char.isDigit args[index]? (ofArgument args index) →
        ofArgument args index = .nan ∧
          ∃ a n p, args[index]? = some a ∧ Longest Char.isDigit a.toList n p) := by
  cases harg : args[index]? with
  | none =>
    have hbound : ofArgument args index = .nan := by
      simp only [ofArgument, harg, Option.elim_none]
    rw [hbound]
    refine ⟨⟨?_, fun _ => lenient_none⟩, fun h => absurd lenient_none h⟩
    rintro - a ⟨⟩
  | some a =>
    have hbound : ofArgument args index = ofText a.toList := by
      simp only [ofArgument, harg, Option.elim_some]
    rw [hbound]
    refine ⟨⟨?_, fun h => (h a rfl).lenient⟩, fun h => ?_⟩
    · rintro lenient _ ⟨⟩
      exact lenient.asciiFirst
    · -- The longest numeral of all is not in ASCII digits, and a shorter one is.
      have hascii : ¬ AsciiFirst a.toList := fun ascii => h ascii.lenient
      simp only [AsciiFirst, not_forall] at hascii
      obtain ⟨n, p, m, q, hall, hq, hreads, other⟩ := hascii
      obtain ⟨m', q', hlongest⟩ := exists_longest Numeral.digitClass_isDigit hq hreads
      exact ⟨ofText_of_other_digit hall other, a, m', q', rfl, hlongest⟩

example : ofArgument ["18px"] 0 = .ofNat 18 := by decide +kernel

/-- Five and then an Arabic three is no bound, although five is the longest numeral in it. -/
theorem ofArgument_not_lenient :
    ¬ Lenient Char.isDigit (some "5\u0663") (ofArgument ["5\u0663"] 0) := by
  intro h
  have hnan : ofArgument ["5\u0663"] 0 = .nan := by decide +kernel
  have hfront : ['5'] <+: "5\u0663".toList := ⟨['\u0663'], by decide +kernel⟩
  have hfive : Reads Char.isDigit ⟨none, ['5'], none, none⟩ ['5'] :=
    @Reads.skip Char.isDigit _ [] ['5'] (by simp)
      (.parts .none (.whole (by simp) (List.forall_mem_singleton.2 (by decide))) .none)
  exact h.nan.1 hnan _ _ _ rfl hfront hfive

end Bound

end FormRules
