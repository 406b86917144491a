import FormRules.Text.Blank

/-!
# Decimal digits

A *decimal digit* is a character of the general category `Nd` of Unicode.  The
digits of one script stand side by side, zero to nine, so the table lists the
zeros only.  Only the ASCII digits have a value here.  The others matter
because a numeric rule argument may begin with them.
-/

namespace FormRules.Text

/-- The zero of each script. -/
def digitZeros : List Nat :=
  [0x30, 0x660, 0x6F0, 0x7C0, 0x966, 0x9E6, 0xA66, 0xAE6, 0xB66, 0xBE6, 0xC66, 0xCE6, 0xD66,
    0xDE6, 0xE50, 0xED0, 0xF20, 0x1040, 0x1090, 0x17E0, 0x1810, 0x1946, 0x19D0, 0x1A80, 0x1A90,
    0x1B50, 0x1BB0, 0x1C40, 0x1C50, 0xA620, 0xA8D0, 0xA900, 0xA9D0, 0xA9F0, 0xAA50, 0xABF0,
    0xFF10, 0x104A0, 0x10D30, 0x10D40, 0x11066, 0x110F0, 0x11136, 0x111D0, 0x112F0, 0x11450,
    0x114D0, 0x11650, 0x116C0, 0x116D0, 0x116DA, 0x11730, 0x118E0, 0x11950, 0x11BF0, 0x11C50,
    0x11D50, 0x11DA0, 0x11F50, 0x16130, 0x16A60, 0x16AC0, 0x16B50, 0x16D70, 0x1CCF0, 0x1D7CE,
    0x1D7D8, 0x1D7E2, 0x1D7EC, 0x1D7F6, 0x1E140, 0x1E2F0, 0x1E4F0, 0x1E5F1, 0x1E950, 0x1FBF0]

/-- Whether a character is a decimal digit of any script. -/
def isDecimal (c : Char) : Bool :=
  digitZeros.any fun z => z ≤ c.toNat && c.toNat < z + 10

/-- The value of an ASCII digit. -/
def digitValue (c : Char) : Nat := c.toNat - 48

/-- The number that a run of ASCII digits writes, first digit first. -/
def digitsValue (s : List Char) : Nat := s.foldl (fun n c => 10 * n + digitValue c) 0

/-- Whether every character is an ASCII digit. -/
def allDigits (s : List Char) : Bool := s.all Char.isDigit

/-! ## Lemmas -/

/-- The ASCII digits are decimal digits. -/
theorem isDecimal_of_isDigit {c : Char} (h : c.isDigit = true) : isDecimal c = true := by
  simp only [isDecimal, digitZeros, List.any_cons, Bool.or_eq_true, Bool.and_eq_true,
    decide_eq_true_eq]
  have hc := Char.isDigit_iff_toNat.1 h
  exact .inl ⟨hc.1, Nat.lt_succ_of_le hc.2⟩

theorem allDigits_iff (s : List Char) : allDigits s = true ↔ ∀ c ∈ s, c.isDigit = true :=
  List.all_eq_true

theorem digitValue_eq_zero_iff {c : Char} (h : c.isDigit = true) : digitValue c = 0 ↔ c = '0' := by
  constructor
  · intro hzero
    have hge := (Char.isDigit_iff_toNat.1 h).1
    have hle : c.toNat ≤ 48 := Nat.le_of_sub_eq_zero hzero
    exact Char.toNat_inj.1 (Nat.le_antisymm hle hge)
  · rintro rfl
    rfl

/-- Digits that are read after a number make zero of it only if it is zero and all of them are. -/
theorem foldl_digitValue_eq_zero_iff (n : Nat) (s : List Char) :
    s.foldl (fun n c => 10 * n + digitValue c) n = 0 ↔ n = 0 ∧ ∀ c ∈ s, digitValue c = 0 := by
  induction s generalizing n with
  | nil => simp
  | cons c rest ih =>
    have hstep : 10 * n + digitValue c = 0 ↔ n = 0 ∧ digitValue c = 0 := by omega
    rw [List.foldl_cons, ih, List.forall_mem_cons, hstep, and_assoc]

/-- A run of digits writes zero only if each of them is the digit zero. -/
theorem digitsValue_eq_zero_iff {s : List Char} (h : ∀ c ∈ s, c.isDigit = true) :
    digitsValue s = 0 ↔ ∀ c ∈ s, c = '0' := by
  rw [digitsValue, foldl_digitValue_eq_zero_iff, and_iff_right rfl]
  exact forall₂_congr fun c hc => digitValue_eq_zero_iff (h c hc)

end FormRules.Text
