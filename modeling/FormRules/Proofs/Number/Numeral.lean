import FormRules.Number.Decimal
import FormRules.Text.Blank
import Mathlib.Data.List.TakeWhile

/-!
# The grammar of numerals

What a numeral is can be said without scanning: a text *writes* a sign or none,
then digits with an optional point, then an exponent or none (`Writes`).  What a
digit is stays open.  All that is asked of the digits is that no mark of a
numeral and no white space is one of them (`DigitClass`).  The ASCII digits and
the decimal digits of all scripts are such classes.

The scan goes from part to part and never back, and still it finds the longest
numeral at the front of a text.

* What it takes is a numeral (`exists_writes_of_scan`).
* If a numeral stands at the front, it takes at least as much (`scan_append`).
* From a numeral alone it takes all, and gives its parts back (`scan_of_writes`).
  So a text writes one numeral only.

The second is where the idea lies.  A numeral at the front of a text may end in
the middle of a run of digits, and then the scan takes the run and perhaps more.
But it ends there only if nothing follows the run in the numeral, since a point
and a mark of an exponent are no digits.  So the scan is never in another part
than the numeral unless it is ahead of it.
-/

namespace FormRules.Numeral

/-! ## The grammar -/

/-- The text writes a sign or none. -/
inductive WritesSign : Option Char → List Char → Prop where
  | none : WritesSign none []
  | plus : WritesSign (some '+') ['+']
  | minus : WritesSign (some '-') ['-']

/-- The text writes digits, with a point before, among or behind them or without one. -/
inductive WritesDigits (digit : Char → Bool) :
    List Char → Option (List Char) → List Char → Prop where
  /-- Digits and no point. -/
  | whole {ds : List Char} :
      ds ≠ [] → (∀ c ∈ ds, digit c = true) → WritesDigits digit ds none ds
  /-- Digits, a point, and more digits or none. -/
  | pointed {ds fs : List Char} :
      ds ≠ [] → (∀ c ∈ ds, digit c = true) → (∀ c ∈ fs, digit c = true) →
        WritesDigits digit ds (some fs) (ds ++ '.' :: fs)
  /-- A point and digits. -/
  | fraction {fs : List Char} :
      fs ≠ [] → (∀ c ∈ fs, digit c = true) → WritesDigits digit [] (some fs) ('.' :: fs)

/-- The text writes an exponent or none. -/
inductive WritesExponent (digit : Char → Bool) :
    Option (Option Char × List Char) → List Char → Prop where
  | none : WritesExponent digit none []
  /-- A mark, a sign or none, and digits. -/
  | marked {mark : Char} {sign : Option Char} {s ds : List Char} :
      mark = 'e' ∨ mark = 'E' → WritesSign sign s → ds ≠ [] → (∀ c ∈ ds, digit c = true) →
        WritesExponent digit (some (sign, ds)) (mark :: (s ++ ds))

/-- The text writes the numeral, from its first character to its last. -/
inductive Writes (digit : Char → Bool) : Numeral → List Char → Prop where
  | parts {sign : Option Char} {whole : List Char} {fraction : Option (List Char)}
      {exponent : Option (Option Char × List Char)} {s d e : List Char} :
      WritesSign sign s → WritesDigits digit whole fraction d → WritesExponent digit exponent e →
        Writes digit ⟨sign, whole, fraction, exponent⟩ (s ++ (d ++ e))

/-- No mark of a numeral is a digit, and neither is white space. -/
structure DigitClass (digit : Char → Bool) : Prop where
  mark : ∀ c ∈ ['+', '-', '.', 'e', 'E'], digit c = false
  blank : ∀ c, Text.isBlank c = true → digit c = false

variable {digit : Char → Bool} {s p rest ds : List Char}

/-! ## Signs -/

theorem exists_writesSign (s : List Char) :
    ∃ p, WritesSign (scanSign s).1 p ∧ s = p ++ (scanSign s).2 := by
  unfold scanSign
  split
  case h_1 rest => exact ⟨['+'], .plus, rfl⟩
  case h_2 rest => exact ⟨['-'], .minus, rfl⟩
  case h_3 => exact ⟨[], .none, rfl⟩

theorem scanSign_append {sign : Option Char} (h : WritesSign sign p)
    (hrest : ∀ c, rest.head? = some c → c ≠ '+' ∧ c ≠ '-') :
    scanSign (p ++ rest) = (sign, rest) := by
  cases h with
  | plus => rfl
  | minus => rfl
  | none =>
    rw [List.nil_append]
    unfold scanSign
    split
    case h_1 => exact absurd rfl (hrest _ rfl).1
    case h_2 => exact absurd rfl (hrest _ rfl).2
    case h_3 => rfl

/-! ## Digits and the point -/

/-- The text does not go on with a digit or a point. -/
def Ends (digit : Char → Bool) (s : List Char) : Prop :=
  ∀ c, s.head? = some c → digit c = false ∧ c ≠ '.'

theorem ends_nil : Ends digit [] := by
  intro c h
  cases h

theorem takeWhile_of_head (h : ∀ c, s.head? = some c → digit c = false) :
    s.takeWhile digit = [] := by
  cases s with
  | nil => rfl
  | cons c rest => simp [h c rfl]

theorem dropWhile_of_head (h : ∀ c, s.head? = some c → digit c = false) :
    s.dropWhile digit = s := by
  cases s with
  | nil => rfl
  | cons c rest => simp [h c rfl]

theorem scanDigits_pointed (cls : DigitClass digit) (hds : ∀ c ∈ ds, digit c = true) :
    scanDigits digit (ds ++ '.' :: s) =
      if ds.isEmpty && (s.takeWhile digit).isEmpty then none
      else some (ds, some (s.takeWhile digit), s.dropWhile digit) := by
  have hpoint : digit '.' = false := cls.mark '.' (by simp)
  simp [scanDigits, List.takeWhile_append_of_pos hds, List.dropWhile_append_of_pos hds, hpoint]

theorem scanDigits_fraction (cls : DigitClass digit) (s : List Char) :
    scanDigits digit ('.' :: s) =
      if (s.takeWhile digit).isEmpty then none
      else some ([], some (s.takeWhile digit), s.dropWhile digit) := by
  have hnone : ∀ c ∈ ([] : List Char), digit c = true := by simp
  exact scanDigits_pointed cls hnone

theorem scanDigits_whole (hds : ∀ c ∈ ds, digit c = true) (hs : Ends digit s) :
    scanDigits digit (ds ++ s) = if ds.isEmpty then none else some (ds, none, s) := by
  have hdigit : ∀ c, s.head? = some c → digit c = false := fun c hc => (hs c hc).1
  have htake : (ds ++ s).takeWhile digit = ds := by
    rw [List.takeWhile_append_of_pos hds, takeWhile_of_head hdigit, List.append_nil]
  have hdrop : (ds ++ s).dropWhile digit = s := by
    rw [List.dropWhile_append_of_pos hds, dropWhile_of_head hdigit]
  unfold scanDigits
  rw [htake, hdrop]
  split
  case h_1 rest => exact absurd rfl (hs '.' rfl).2
  case h_2 => rfl

/-- Every text is digits, perhaps none, and then a point or something that ends the number. -/
theorem exists_digits (digit : Char → Bool) (s : List Char) :
    ∃ ds, (∀ c ∈ ds, digit c = true) ∧
      ((∃ t, s = ds ++ '.' :: t) ∨ ∃ t, s = ds ++ t ∧ Ends digit t) := by
  refine ⟨s.takeWhile digit, fun c hc => List.mem_takeWhile_imp hc, ?_⟩
  have hs : s = s.takeWhile digit ++ s.dropWhile digit := List.takeWhile_append_dropWhile.symm
  have hhead : ∀ c, (s.dropWhile digit).head? = some c → digit c = false := by
    intro c hc
    have h := List.head?_dropWhile_not digit s
    rw [hc] at h
    simpa using h
  generalize s.dropWhile digit = t at hs hhead
  cases t with
  | nil => exact .inr ⟨[], hs, ends_nil⟩
  | cons c t =>
    by_cases hc : c = '.'
    · subst hc
      exact .inl ⟨t, hs⟩
    · refine .inr ⟨c :: t, hs, fun d hd => ?_⟩
      obtain rfl : c = d := Option.some.inj hd
      exact ⟨hhead c rfl, hc⟩

theorem exists_writesDigits (cls : DigitClass digit) {w : List Char} {f : Option (List Char)}
    (h : scanDigits digit s = some (w, f, rest)) :
    ∃ p, WritesDigits digit w f p ∧ s = p ++ rest := by
  obtain ⟨ds, hds, ⟨t, rfl⟩ | ⟨t, rfl, ht⟩⟩ := exists_digits digit s
  · rw [scanDigits_pointed cls hds] at h
    have hfs : ∀ c ∈ t.takeWhile digit, digit c = true := fun c hc => List.mem_takeWhile_imp hc
    split at h
    case isTrue => cases h
    case isFalse hne =>
      cases h
      refine ⟨w ++ '.' :: t.takeWhile digit, ?_, by simp⟩
      cases w with
      | nil =>
        have hne' : t.takeWhile digit ≠ [] := fun hnil => hne (by simp [hnil])
        exact .fraction hne' hfs
      | cons c w => exact .pointed (List.cons_ne_nil c w) hds hfs
  · rw [scanDigits_whole hds ht] at h
    split at h
    case isTrue => cases h
    case isFalse hne =>
      cases h
      exact ⟨w, .whole (by simpa using hne) hds, rfl⟩

/-- Digits at the front of a text are taken, and if the number ends behind them, nothing else. -/
theorem scanDigits_of_ends (cls : DigitClass digit) {w : List Char} {f : Option (List Char)}
    (h : WritesDigits digit w f p) (hrest : Ends digit rest) :
    scanDigits digit (p ++ rest) = some (w, f, rest) := by
  have hdigit : ∀ c, rest.head? = some c → digit c = false := fun c hc => (hrest c hc).1
  cases h with
  | whole hne hds =>
    rw [scanDigits_whole hds hrest]
    simp [hne]
  | @pointed ds fs hne hds hfs =>
    rw [List.append_assoc, List.cons_append, scanDigits_pointed cls hds,
      List.takeWhile_append_of_pos hfs, List.dropWhile_append_of_pos hfs,
      takeWhile_of_head hdigit, dropWhile_of_head hdigit]
    simp [hne]
  | @fraction fs hne hfs =>
    rw [List.cons_append, scanDigits_fraction cls, List.takeWhile_append_of_pos hfs,
      List.dropWhile_append_of_pos hfs, takeWhile_of_head hdigit, dropWhile_of_head hdigit]
    simp [hne]

/-- Digits at the front of a text are taken, whatever follows. -/
theorem exists_scanDigits_append (cls : DigitClass digit) {w : List Char}
    {f : Option (List Char)} (h : WritesDigits digit w f p) (rest : List Char) :
    ∃ w' f' r, scanDigits digit (p ++ rest) = some (w', f', r) ∧ r.length ≤ rest.length := by
  have hdrop : (rest.dropWhile digit).length ≤ rest.length :=
    (List.dropWhile_sublist digit).length_le
  cases h with
  | whole hne hds =>
    -- The run of digits may go on, and a point may come behind it.
    obtain ⟨more, hmore, hrest⟩ := exists_digits digit rest
    have hall : ∀ c ∈ p ++ more, digit c = true := by
      simpa [or_imp, forall_and] using ⟨hds, hmore⟩
    rcases hrest with ⟨t, rfl⟩ | ⟨t, rfl, ht⟩
    · have ht : (t.dropWhile digit).length ≤ t.length := (List.dropWhile_sublist digit).length_le
      rw [← List.append_assoc, scanDigits_pointed cls hall]
      refine ⟨p ++ more, some (t.takeWhile digit), t.dropWhile digit, by simp [hne], ?_⟩
      simp
      omega
    · rw [← List.append_assoc, scanDigits_whole hall ht]
      exact ⟨p ++ more, none, t, by simp [hne], by simp⟩
  | @pointed ds fs hne hds hfs =>
    rw [List.append_assoc, List.cons_append, scanDigits_pointed cls hds,
      List.dropWhile_append_of_pos hfs]
    exact ⟨w, some ((fs ++ rest).takeWhile digit), rest.dropWhile digit, by simp [hne], hdrop⟩
  | @fraction fs hne hfs =>
    rw [List.cons_append, scanDigits_fraction cls, List.takeWhile_append_of_pos hfs,
      List.dropWhile_append_of_pos hfs]
    exact ⟨[], some (fs ++ rest.takeWhile digit), rest.dropWhile digit, by simp [hne], hdrop⟩

/-- Digits begin with a digit or with a point. -/
theorem WritesDigits.exists_cons {w : List Char} {f : Option (List Char)}
    (h : WritesDigits digit w f p) : ∃ c t, p = c :: t ∧ (digit c = true ∨ c = '.') := by
  cases h with
  | whole hne hds =>
    obtain ⟨c, t, rfl⟩ := List.exists_cons_of_ne_nil hne
    exact ⟨c, t, rfl, .inl (hds c List.mem_cons_self)⟩
  | pointed hne hds _ =>
    obtain ⟨c, t, rfl⟩ := List.exists_cons_of_ne_nil hne
    exact ⟨c, _, rfl, .inl (hds c List.mem_cons_self)⟩
  | fraction _ _ => exact ⟨'.', _, rfl, .inr rfl⟩

theorem DigitClass.not_sign (cls : DigitClass digit) {c : Char}
    (hc : digit c = true ∨ c = '.') : c ≠ '+' ∧ c ≠ '-' := by
  rcases hc with hc | rfl
  · constructor
    · rintro rfl
      simp [cls.mark '+' (by simp)] at hc
    · rintro rfl
      simp [cls.mark '-' (by simp)] at hc
  · decide

theorem WritesDigits.head_not_sign (cls : DigitClass digit) {w : List Char}
    {f : Option (List Char)} (h : WritesDigits digit w f p) (t : List Char) :
    ∀ c, (p ++ t).head? = some c → c ≠ '+' ∧ c ≠ '-' := by
  intro c hc
  obtain ⟨b, u, rfl, hb⟩ := h.exists_cons
  obtain rfl : b = c := Option.some.inj hc
  exact cls.not_sign hb

/-! ## Exponents -/

theorem exists_writesExponent (digit : Char → Bool) (s : List Char) :
    ∃ p, WritesExponent digit (scanExponent digit s).1 p ∧ s = p ++ (scanExponent digit s).2 := by
  cases s with
  | nil => exact ⟨[], .none, rfl⟩
  | cons mark rest =>
    simp only [scanExponent]
    split
    case isFalse => exact ⟨[], .none, rfl⟩
    case isTrue hmark =>
      obtain ⟨p, hp, hrest⟩ := exists_writesSign rest
      split
      case h_1 => exact ⟨[], .none, rfl⟩
      case h_2 hne =>
        refine ⟨mark :: (p ++ (scanSign rest).2.takeWhile digit), ?_, ?_⟩
        · exact .marked hmark hp hne fun c hc => List.mem_takeWhile_imp hc
        · rw [List.cons_append, List.append_assoc, List.takeWhile_append_dropWhile, ← hrest]

theorem length_scanExponent (digit : Char → Bool) (s : List Char) :
    (scanExponent digit s).2.length ≤ s.length := by
  obtain ⟨p, -, hs⟩ := exists_writesExponent digit s
  have hlength := congrArg List.length hs
  rw [List.length_append] at hlength
  omega

/-- An exponent at the front of a text is taken, and so are all digits behind it. -/
theorem scanExponent_marked (cls : DigitClass digit) {mark : Char} {sign : Option Char}
    (hmark : mark = 'e' ∨ mark = 'E') (hsign : WritesSign sign s) (hne : ds ≠ [])
    (hds : ∀ c ∈ ds, digit c = true) (rest : List Char) :
    scanExponent digit (mark :: (s ++ ds) ++ rest) =
      (some (sign, ds ++ rest.takeWhile digit), rest.dropWhile digit) := by
  have hhead : ∀ c, (ds ++ rest).head? = some c → c ≠ '+' ∧ c ≠ '-' := by
    intro c hc
    obtain ⟨d, t, rfl⟩ := List.exists_cons_of_ne_nil hne
    obtain rfl : d = c := Option.some.inj hc
    exact cls.not_sign (.inl (hds d List.mem_cons_self))
  have hscan : scanSign (s ++ ds ++ rest) = (sign, ds ++ rest) := by
    rw [List.append_assoc, scanSign_append hsign hhead]
  simp only [List.cons_append, scanExponent, if_pos hmark, hscan,
    List.takeWhile_append_of_pos hds, List.dropWhile_append_of_pos hds]
  split
  case h_1 hnil => exact absurd (List.append_eq_nil_iff.1 hnil).1 hne
  case h_2 => rfl

theorem length_scanExponent_append (cls : DigitClass digit)
    {x : Option (Option Char × List Char)} (h : WritesExponent digit x p) (rest : List Char) :
    (scanExponent digit (p ++ rest)).2.length ≤ rest.length := by
  cases h with
  | none => exact length_scanExponent digit rest
  | marked hmark hsign hne hds =>
    rw [scanExponent_marked cls hmark hsign hne hds]
    exact (List.dropWhile_sublist digit).length_le

/-- An exponent at the front of a text is taken, and if the number ends behind it, nothing else. -/
theorem scanExponent_of_ends (cls : DigitClass digit) {x : Option (Option Char × List Char)}
    (h : WritesExponent digit x p) (hrest : Ends digit rest)
    (hmark : ∀ c, rest.head? = some c → ¬ (c = 'e' ∨ c = 'E')) :
    scanExponent digit (p ++ rest) = (x, rest) := by
  have hdigit : ∀ c, rest.head? = some c → digit c = false := fun c hc => (hrest c hc).1
  cases h with
  | none =>
    cases rest with
    | nil => rfl
    | cons c rest => rw [List.nil_append, scanExponent, if_neg (hmark c rfl)]
  | marked hmark' hsign hne hds =>
    rw [scanExponent_marked cls hmark' hsign hne hds, takeWhile_of_head hdigit,
      dropWhile_of_head hdigit, List.append_nil]

/-- A mark of an exponent ends the digits. -/
theorem ends_marked (cls : DigitClass digit) {mark : Char} (hmark : mark = 'e' ∨ mark = 'E')
    (t : List Char) : Ends digit (mark :: t) := by
  intro c hc
  obtain rfl : mark = c := Option.some.inj hc
  refine ⟨cls.mark mark ?_, ?_⟩
  · rcases hmark with rfl | rfl <;> simp
  · rcases hmark with rfl | rfl <;> decide

/-! ## Numerals -/

theorem scan_eq (digit : Char → Bool) (s : List Char) :
    scan digit s = (scanDigits digit (scanSign s).2).map fun cut =>
      (⟨(scanSign s).1, cut.1, cut.2.1, (scanExponent digit cut.2.2).1⟩,
        (scanExponent digit cut.2.2).2) := rfl

/-- What the scan takes off the front of a text writes the numeral that it gives. -/
theorem exists_writes_of_scan (cls : DigitClass digit) {n : Numeral}
    (h : scan digit s = some (n, rest)) : ∃ p, Writes digit n p ∧ s = p ++ rest := by
  rw [scan_eq, Option.map_eq_some_iff] at h
  obtain ⟨⟨w, f, r⟩, hdigits, hcut⟩ := h
  obtain ⟨rfl, rfl⟩ := Prod.mk.inj hcut
  obtain ⟨a, ha, hs⟩ := exists_writesSign s
  obtain ⟨d, hd, hr⟩ := exists_writesDigits cls hdigits
  obtain ⟨e, he, hrest⟩ := exists_writesExponent digit r
  refine ⟨a ++ (d ++ e), .parts ha hd he, ?_⟩
  rw [List.append_assoc, List.append_assoc, ← hrest, ← hr, ← hs]

/-- The scan takes at least what writes a numeral at the front of a text. -/
theorem scan_append (cls : DigitClass digit) {n : Numeral} (h : Writes digit n p)
    (rest : List Char) :
    ∃ m r, scan digit (p ++ rest) = some (m, r) ∧ r.length ≤ rest.length := by
  cases h with
  | @parts sign w f x a d e ha hd he =>
    have hsign : scanSign (a ++ (d ++ e) ++ rest) = (sign, d ++ (e ++ rest)) := by
      rw [List.append_assoc, List.append_assoc,
        scanSign_append ha (hd.head_not_sign cls (e ++ rest))]
    -- A numeral without an exponent may end within its digits, any other one ends behind them.
    have hdigits : ∃ w' f' r, scanDigits digit (d ++ (e ++ rest)) = some (w', f', r) ∧
        (scanExponent digit r).2.length ≤ rest.length := by
      cases he with
      | none =>
        obtain ⟨w', f', r, hscan, hr⟩ := exists_scanDigits_append cls hd rest
        exact ⟨w', f', r, hscan, Nat.le_trans (length_scanExponent digit r) hr⟩
      | marked hmark hs hne hds =>
        exact ⟨w, f, _, scanDigits_of_ends cls hd (ends_marked cls hmark _),
          length_scanExponent_append cls (.marked hmark hs hne hds) rest⟩
    obtain ⟨w', f', r, hscan, hr⟩ := hdigits
    refine ⟨⟨sign, w', f', (scanExponent digit r).1⟩, (scanExponent digit r).2, ?_, hr⟩
    rw [scan_eq, hsign, hscan, Option.map_some]

/-- The scan takes a numeral at the front of a text, and if the text does not go on with it, nothing
else. -/
theorem scan_append_of_ends (cls : DigitClass digit) {n : Numeral} (h : Writes digit n p)
    (hrest : Ends digit rest) (hmark : ∀ c, rest.head? = some c → ¬ (c = 'e' ∨ c = 'E')) :
    scan digit (p ++ rest) = some (n, rest) := by
  cases h with
  | @parts sign w f x a d e ha hd he =>
    have hends : Ends digit (e ++ rest) := by
      cases he with
      | none => exact hrest
      | marked hmark' _ _ _ => exact ends_marked cls hmark' _
    rw [scan_eq, List.append_assoc, List.append_assoc,
      scanSign_append ha (hd.head_not_sign cls (e ++ rest)), scanDigits_of_ends cls hd hends,
      Option.map_some, scanExponent_of_ends cls he hrest hmark]

/-- The scan takes all of a text that writes a numeral, and gives the numeral back. -/
theorem scan_of_writes (cls : DigitClass digit) {n : Numeral} (h : Writes digit n p) :
    scan digit p = some (n, []) := by
  have hscan := scan_append_of_ends cls h ends_nil (fun c hc => by cases hc)
  rwa [List.append_nil] at hscan

/-- A text writes one numeral only. -/
theorem Writes.unique (cls : DigitClass digit) {n m : Numeral} (h : Writes digit n p)
    (h' : Writes digit m p) : n = m := by
  have hscan := scan_of_writes cls h
  rw [scan_of_writes cls h'] at hscan
  cases hscan
  rfl

/-- A numeral does not begin with white space. -/
theorem Writes.exists_cons (cls : DigitClass digit) {n : Numeral} (h : Writes digit n p) :
    ∃ c t, p = c :: t ∧ Text.isBlank c = false := by
  cases h with
  | parts hsign hdigits _ =>
    cases hsign with
    | plus => exact ⟨'+', _, rfl, by decide⟩
    | minus => exact ⟨'-', _, rfl, by decide⟩
    | none =>
      obtain ⟨c, t, rfl, hc⟩ := hdigits.exists_cons
      refine ⟨c, _, rfl, ?_⟩
      rcases hc with hc | rfl
      · by_contra hblank
        simp [cls.blank c (by simpa using hblank)] at hc
      · decide

/-! ## Kinds of digits -/

theorem DigitClass.of_subclass {digit' : Char → Bool} (cls : DigitClass digit')
    (h : ∀ c, digit c = true → digit' c = true) : DigitClass digit := by
  have hfalse : ∀ c, digit' c = false → digit c = false := by
    intro c hc
    cases hdigit : digit c with
    | false => rfl
    | true => rw [h c hdigit] at hc; cases hc
  exact ⟨fun c hc => hfalse c (cls.mark c hc), fun c hc => hfalse c (cls.blank c hc)⟩

/-- No white space is a decimal digit of any script: the ranges do not meet. -/
theorem not_isDecimal_of_isBlank {c : Char} (h : Text.isBlank c = true) :
    Text.isDecimal c = false := by
  have apart : ∀ r ∈ Text.blankRanges, ∀ z ∈ Text.digitZeros, r.2 < z ∨ z + 10 ≤ r.1 := by
    decide
  obtain ⟨r, hr, hblank⟩ := List.any_eq_true.1 h
  cases hdecimal : Text.isDecimal c with
  | false => rfl
  | true =>
    obtain ⟨z, hz, hdigit⟩ := List.any_eq_true.1 hdecimal
    have hapart := apart r hr z hz
    simp only [Bool.and_eq_true, decide_eq_true_eq] at hblank hdigit
    omega

theorem digitClass_isDecimal : DigitClass Text.isDecimal := by
  refine ⟨?_, fun _ => not_isDecimal_of_isBlank⟩
  intro c hc
  simp only [List.mem_cons, List.not_mem_nil, or_false] at hc
  rcases hc with rfl | rfl | rfl | rfl | rfl <;> decide

theorem digitClass_isDigit : DigitClass Char.isDigit :=
  digitClass_isDecimal.of_subclass fun _ => Text.isDecimal_of_isDigit

/-- A numeral in some digits is a numeral in any larger class of them. -/
theorem Writes.mono {digit' : Char → Bool} (hle : ∀ c, digit c = true → digit' c = true)
    {n : Numeral} (h : Writes digit n p) : Writes digit' n p := by
  obtain ⟨hsign, hdigits, hexponent⟩ := h
  refine .parts hsign ?_ ?_
  · cases hdigits with
    | whole hne hds => exact .whole hne fun c hc => hle c (hds c hc)
    | pointed hne hds hfs =>
      exact .pointed hne (fun c hc => hle c (hds c hc)) fun c hc => hle c (hfs c hc)
    | fraction hne hfs => exact .fraction hne fun c hc => hle c (hfs c hc)
  · cases hexponent with
    | none => exact .none
    | marked hmark hs hne hds => exact .marked hmark hs hne fun c hc => hle c (hds c hc)

theorem isAscii_iff (n : Numeral) :
    n.isAscii = true ↔ (∀ c ∈ n.whole, c.isDigit = true) ∧
      (∀ c ∈ n.fraction.getD [], c.isDigit = true) ∧
        ∀ c ∈ (n.exponent.map Prod.snd).getD [], c.isDigit = true := by
  simp only [isAscii, Text.allDigits, Bool.and_eq_true, List.all_eq_true, and_assoc]

/-- The check for ASCII digits tells whether the text is a numeral in ASCII digits. -/
theorem Writes.isAscii_iff {n : Numeral} (h : Writes digit n p) :
    n.isAscii = true ↔ Writes Char.isDigit n p := by
  rw [Numeral.isAscii_iff]
  constructor
  · rintro ⟨hwhole, hfraction, hexp⟩
    obtain ⟨hsign, hdigits, hexponent⟩ := h
    refine .parts hsign ?_ ?_
    · cases hdigits with
      | whole hne _ => exact .whole hne hwhole
      | pointed hne _ _ => exact .pointed hne hwhole hfraction
      | fraction hne _ => exact .fraction hne hfraction
    · cases hexponent with
      | none => exact .none
      | marked hmark hs hne _ => exact .marked hmark hs hne hexp
  · rintro ⟨-, hdigits, hexponent⟩
    refine ⟨?_, ?_, ?_⟩
    · cases hdigits <;> simp_all
    · cases hdigits <;> simp_all
    · cases hexponent <;> simp_all

end FormRules.Numeral
