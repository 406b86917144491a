import FormRules.Text.Case

/-!
# Classes of characters without regard to case

A class of ASCII characters is *blind* to case if a character and its folded letter are
both in it or both outside.  Asking this of the ASCII capitals is not enough, since two
letters that are not ASCII fold to ASCII ones: the long s and the sign of the kelvin.  No
letter comes from outside to a place before `k` (`foldCase_cases`).  So a class that ends
before `k` is blind if it does not tell the ASCII capitals from the small letters
(`caseBlind_of_capitals`).
-/

namespace FormRules.Text

/-- The class does not tell a character from its folded letter. -/
def CaseBlind (holds : Char → Bool) : Prop := ∀ c, holds (foldCase c) = holds c

/-- Two texts are the same letter by letter, up to case. -/
def SameLetters (s t : List Char) : Prop := s.map foldCase = t.map foldCase

instance (s t : List Char) : Decidable (SameLetters s t) := inferInstanceAs (Decidable (_ = _))

/-- Folding keeps a character, or it makes a small letter of an ASCII capital, or it takes a
character that is not ASCII to one behind `j`. -/
theorem foldCase_cases (c : Char) :
    foldCase c = c ∨
      (∃ k < 26, c = Char.ofNat (0x41 + k) ∧ foldCase c = Char.ofNat (0x61 + k)) ∨
      (0x80 ≤ c.toNat ∧ 0x6B ≤ (foldCase c).toNat) := by
  have runs : ∀ r ∈ caseRuns, r = ⟨0x41, 0x5A, 1, 0x61⟩ ∨ (0x80 ≤ r.first ∧ 0x6B ≤ r.folded ∧
      (r.folded + (r.last - r.first) < 0xD800 ∨
        0xDFFF < r.folded ∧ r.folded + (r.last - r.first) < 0x110000)) := by
    decide +kernel
  cases hfind : caseRuns.findSome? (·.fold? c.toNat) with
  | none => exact .inl (by rw [foldCase, hfind])
  | some n =>
    have hletter : foldCase c = Char.ofNat n := by rw [foldCase, hfind]
    obtain ⟨r, hr, hfold⟩ := List.exists_of_findSome?_eq_some hfind
    rw [CaseRun.fold?] at hfold
    split at hfold
    case isFalse => cases hfold
    case isTrue hrange =>
      obtain rfl := Option.some.inj hfold
      right
      rcases runs r hr with rfl | ⟨hfirst, hfolded, hvalid⟩
      · obtain ⟨hfirst, hlast, -⟩ := hrange
        refine .inl ⟨c.toNat - 0x41, ?_, ?_, hletter⟩
        · simp only at hlast
          omega
        · rw [Nat.add_sub_cancel' hfirst, Char.ofNat_toNat]
      · have hn : (r.folded + (c.toNat - r.first)).isValidChar := by
          rw [Nat.isValidChar]
          omega
        have hfolded' : (foldCase c).toNat = r.folded + (c.toNat - r.first) := by
          rw [hletter, Char.ofNat, dif_pos hn]
          rfl
        exact .inr ⟨by omega, by omega⟩

/-- A class of characters before `k` is blind to case if it is on the ASCII letters. -/
theorem caseBlind_of_capitals {holds : Char → Bool} (before : ∀ c, holds c = true → c.toNat < 0x6B)
    (capitals : ∀ k < 26, holds (Char.ofNat (0x61 + k)) = holds (Char.ofNat (0x41 + k))) :
    CaseBlind holds := by
  intro c
  rcases foldCase_cases c with h | ⟨k, hk, rfl, h⟩ | ⟨hc, hfolded⟩
  · rw [h]
  · rw [h]
    exact capitals k hk
  · have hfalse : ∀ d : Char, 0x6B ≤ d.toNat → holds d = false := fun d hd =>
      Bool.eq_false_iff.2 fun hholds => absurd (before d hholds) (Nat.not_lt.2 hd)
    rw [hfalse c (by omega), hfalse _ hfolded]

end FormRules.Text
