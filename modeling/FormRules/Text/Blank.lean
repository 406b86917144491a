/-!
# White space

A character is *blank* if it has the property `White_Space` of Unicode.  There
are 25 of them: the six ASCII ones, next line, the no-break space and the wide
and narrow spaces of the general punctuation and East Asian blocks, and the two
separators.

Trimming takes every blank character off both ends and leaves the rest as it
is.  A text of blank characters only trims to the empty text (`trim_eq_nil_iff`).
-/

namespace FormRules.Text

/-- The ranges of the blank characters, both ends included. -/
def blankRanges : List (Nat × Nat) :=
  [(0x09, 0x0D), (0x20, 0x20), (0x85, 0x85), (0xA0, 0xA0), (0x1680, 0x1680), (0x2000, 0x200A),
    (0x2028, 0x2029), (0x202F, 0x202F), (0x205F, 0x205F), (0x3000, 0x3000)]

/-- Whether one of the ranges holds the character. -/
def inRanges (ranges : List (Nat × Nat)) (c : Char) : Bool :=
  ranges.any fun r => r.1 ≤ c.toNat && c.toNat ≤ r.2

/-- Whether a character is white space. -/
def isBlank (c : Char) : Bool := inRanges blankRanges c

/-- The text without the blank characters at its start. -/
def trimStart (s : List Char) : List Char := s.dropWhile isBlank

/-- The text without the blank characters at its end. -/
def trimEnd (s : List Char) : List Char := (s.reverse.dropWhile isBlank).reverse

/-- The text without the blank characters at its ends. -/
def trim (s : List Char) : List Char := trimEnd (trimStart s)

/-! ## Lemmas -/

theorem trimStart_eq_nil_iff (s : List Char) : trimStart s = [] ↔ ∀ c ∈ s, isBlank c = true := by
  induction s with
  | nil => exact ⟨nofun, fun _ => rfl⟩
  | cons c rest ih =>
    rw [List.forall_mem_cons, ← ih, trimStart, trimStart]
    by_cases hc : isBlank c = true
    · rw [List.dropWhile_cons_of_pos hc, and_iff_right hc]
    · rw [List.dropWhile_cons_of_neg hc]
      exact ⟨nofun, fun h => absurd h.1 hc⟩

theorem trimEnd_eq_nil_iff (s : List Char) : trimEnd s = [] ↔ ∀ c ∈ s, isBlank c = true := by
  rw [trimEnd, List.reverse_eq_nil_iff]
  have h := trimStart_eq_nil_iff s.reverse
  simp only [List.mem_reverse] at h
  exact h

theorem trim_eq_nil_iff (s : List Char) : trim s = [] ↔ ∀ c ∈ s, isBlank c = true := by
  rw [trim, trimEnd_eq_nil_iff]
  induction s with
  | nil => exact Iff.rfl
  | cons c rest ih =>
    rw [trimStart] at ih ⊢
    by_cases hc : isBlank c = true
    · rw [List.dropWhile_cons_of_pos hc, ih, List.forall_mem_cons, and_iff_right hc]
    · rw [List.dropWhile_cons_of_neg hc]

end FormRules.Text
