import FormRules.Builtin.Format
import FormRules.Proofs.Pattern
import FormRules.Proofs.Text.Case

/-!
# The form of UUIDs

A UUID has 36 characters.  Hyphens stand at four places and hexadecimal digits of either
case at all others, and two of these have a choice of digits of their own (`IsUuid`).

The pattern counts digits in groups and says nothing of places.  But it has no choices and
no open repetitions, so it is a row of classes, and the class of each place can be read
off (`row_uuidPattern`).  The rest is about these classes.

* They are classes of ASCII characters, and no newline is in them.
* They are blind to case, so the case of letters does not matter to the whole text.
* A hyphen stands behind the eighth digit, and a number has a minus sign in front only.
-/

namespace FormRules.Builtin

/-! ## The form -/

/-- The places of the hyphens, counted from zero. -/
def hyphenPlaces : List Nat := [8, 13, 18, 23]

/-- The hexadecimal digits of either case. -/
def hexDigits : List Char :=
  ['0', '1', '2', '3', '4', '5', '6', '7', '8', '9', 'a', 'b', 'c', 'd', 'e', 'f',
    'A', 'B', 'C', 'D', 'E', 'F']

/-- The text is a UUID. -/
structure IsUuid (s : List Char) : Prop where
  length : s.length = 36
  hyphen : ∀ i ∈ hyphenPlaces, s[i]? = some '-'
  digit : ∀ i c, i ∉ hyphenPlaces → s[i]? = some c → c ∈ hexDigits
  version : ∃ c ∈ ['0', '1', '2', '3', '4', '5'], s[14]? = some c
  variant : ∃ c ∈ ['8', '9', 'a', 'b', 'A', 'B'], s[19]? = some c

/-! ## Classes -/

variable {s : List Char} {c : Char}

theorem toNat_le_of_isHexDigit (h : isHexDigit c = true) : c.toNat ≤ 0x66 := by
  simp only [isHexDigit, Bool.or_eq_true, Bool.and_eq_true, decide_eq_true_eq] at h
  rcases h with (hdigit | hsmall) | hcapital
  · exact Nat.le_trans (Char.isDigit_iff_toNat.1 hdigit).2 (by decide)
  · exact hsmall.2
  · exact Nat.le_trans hcapital.2 (by decide)

theorem isHexDigit_iff (c : Char) : isHexDigit c = true ↔ c ∈ hexDigits := by
  constructor
  · intro h
    have ascii : ∀ n < 0x67, isHexDigit (Char.ofNat n) = true → Char.ofNat n ∈ hexDigits := by
      decide
    have hc := ascii c.toNat (Nat.lt_succ_of_le (toNat_le_of_isHexDigit h))
    rw [Char.ofNat_toNat] at hc
    exact hc h
  · have all : hexDigits.all isHexDigit = true := by decide
    exact List.all_eq_true.1 all c

theorem toNat_le_of_isVersion (h : isVersion c = true) : c.toNat ≤ 0x35 := by
  simp only [isVersion, Bool.and_eq_true, decide_eq_true_eq] at h
  exact h.2

theorem isVersion_iff (c : Char) : isVersion c = true ↔ c ∈ ['0', '1', '2', '3', '4', '5'] := by
  constructor
  · intro h
    have ascii : ∀ n < 0x36, isVersion (Char.ofNat n) = true →
        Char.ofNat n ∈ ['0', '1', '2', '3', '4', '5'] := by decide
    have hc := ascii c.toNat (Nat.lt_succ_of_le (toNat_le_of_isVersion h))
    rw [Char.ofNat_toNat] at hc
    exact hc h
  · have all : ['0', '1', '2', '3', '4', '5'].all isVersion = true := by decide
    exact List.all_eq_true.1 all c

theorem isVariant_iff (c : Char) : isVariant c = true ↔ c ∈ ['8', '9', 'a', 'b', 'A', 'B'] :=
  List.contains_iff_mem

theorem isHexDigit_of_isVersion (h : isVersion c = true) : isHexDigit c = true := by
  have all : ['0', '1', '2', '3', '4', '5'].all isHexDigit = true := by decide
  exact List.all_eq_true.1 all c ((isVersion_iff c).1 h)

theorem isHexDigit_of_isVariant (h : isVariant c = true) : isHexDigit c = true := by
  have all : ['8', '9', 'a', 'b', 'A', 'B'].all isHexDigit = true := by decide
  exact List.all_eq_true.1 all c ((isVariant_iff c).1 h)

/-! ## Places -/

/-- The class of a place. -/
def uuidClass (i : Nat) : Char → Bool :=
  if i ∈ hyphenPlaces then (· == '-')
  else if i = 14 then isVersion
  else if i = 19 then isVariant
  else isHexDigit

/-- The groups of the pattern, laid out place by place. -/
theorem row_uuidPattern : uuidPattern.Row ((List.range 36).map uuidClass) :=
  have hex (n : Nat) := Pattern.row_times_one n isHexDigit
  have hyphen := Pattern.row_one (· == '-')
  (hex 8).seq <| hyphen.seq <| (hex 4).seq <| hyphen.seq <|
    (Pattern.row_one isVersion).seq <| (hex 3).seq <| hyphen.seq <|
      (Pattern.row_one isVariant).seq <| (hex 3).seq <| hyphen.seq <|
        (hex 12).seq Pattern.row_done

theorem uuidClass_hyphen {i : Nat} (hi : i ∈ hyphenPlaces) (c : Char) :
    uuidClass i c = true ↔ c = '-' := by
  rw [uuidClass, if_pos hi, beq_iff_eq]

theorem isHexDigit_of_uuidClass {i : Nat} (hi : i ∉ hyphenPlaces) (h : uuidClass i c = true) :
    isHexDigit c = true := by
  rw [uuidClass, if_neg hi] at h
  split at h
  · exact isHexDigit_of_isVersion h
  · split at h
    · exact isHexDigit_of_isVariant h
    · exact h

/-- A digit is in the class of its place if it is a version and a variant where these stand. -/
theorem uuidClass_of_digit {i : Nat} (hi : i ∉ hyphenPlaces) (hversion : i = 14 → isVersion c = true)
    (hvariant : i = 19 → isVariant c = true) (hdigit : isHexDigit c = true) :
    uuidClass i c = true := by
  rw [uuidClass, if_neg hi]
  split
  · next h => exact hversion h
  · split
    · next h => exact hvariant h
    · exact hdigit

theorem isUuid_iff (s : List Char) :
    IsUuid s ↔ s.length = 36 ∧ ∀ i c, s[i]? = some c → uuidClass i c = true := by
  constructor
  · rintro ⟨hlength, hhyphen, hdigit, ⟨v, hv, hversion⟩, ⟨w, hw, hvariant⟩⟩
    refine ⟨hlength, fun i c hc => ?_⟩
    by_cases hi : i ∈ hyphenPlaces
    · rw [hhyphen i hi] at hc
      exact (uuidClass_hyphen hi c).2 (Option.some.inj hc).symm
    · refine uuidClass_of_digit hi ?_ ?_ ((isHexDigit_iff c).2 (hdigit i c hi hc))
      · rintro rfl
        obtain rfl : v = c := Option.some.inj (hversion.symm.trans hc)
        exact (isVersion_iff v).2 hv
      · rintro rfl
        obtain rfl : w = c := Option.some.inj (hvariant.symm.trans hc)
        exact (isVariant_iff w).2 hw
  · rintro ⟨hlength, hclass⟩
    have place : ∀ i < 36, ∃ c, s[i]? = some c ∧ uuidClass i c = true := by
      intro i hi
      have hc := List.getElem?_eq_getElem (hlength ▸ hi : i < s.length)
      exact ⟨_, hc, hclass i _ hc⟩
    refine ⟨hlength, fun i hi => ?_, fun i c hi hc => ?_, ?_, ?_⟩
    · have bound : ∀ j ∈ hyphenPlaces, j < 36 := by decide
      obtain ⟨c, hc, h⟩ := place i (bound i hi)
      rw [hc, (uuidClass_hyphen hi c).1 h]
    · exact (isHexDigit_iff c).1 (isHexDigit_of_uuidClass hi (hclass i c hc))
    · obtain ⟨c, hc, h⟩ := place 14 (by decide)
      exact ⟨c, (isVersion_iff c).1 h, hc⟩
    · obtain ⟨c, hc, h⟩ := place 19 (by decide)
      exact ⟨c, (isVariant_iff c).1 h, hc⟩

theorem matches_uuidPattern_iff : uuidPattern.Matches s ↔ IsUuid s := by
  rw [row_uuidPattern.matches_iff, isUuid_iff]

/-! ## Characters of a UUID -/

theorem caseBlind_uuidClass (i : Nat) : Text.CaseBlind (uuidClass i) := by
  refine Text.caseBlind_of_capitals (fun c h => ?_) ?_
  · by_cases hi : i ∈ hyphenPlaces
    · rw [(uuidClass_hyphen hi c).1 h]
      decide
    · have hle := toNat_le_of_isHexDigit (isHexDigit_of_uuidClass hi h)
      omega
  · unfold uuidClass
    split
    · decide
    · split
      · decide
      · split <;> decide

theorem IsUuid.mem_cases (h : IsUuid s) (hc : c ∈ s) : c = '-' ∨ c ∈ hexDigits := by
  obtain ⟨i, hi⟩ := List.mem_iff_getElem?.1 hc
  by_cases hplace : i ∈ hyphenPlaces
  · rw [h.hyphen i hplace] at hi
    exact .inl (Option.some.inj hi).symm
  · exact .inr (h.digit i c hplace hi)

theorem IsUuid.ascii_of_mem (h : IsUuid s) (hc : c ∈ s) : c.toNat < 0x80 ∧ c ≠ '\n' := by
  have all : ('-' :: hexDigits).all (fun d => d.toNat < 0x80 && d != '\n') = true := by decide
  have h := List.all_eq_true.1 all c (List.mem_cons.2 (h.mem_cases hc))
  simpa using h

/-- The case of letters does not matter. -/
theorem isUuid_iff_of_sameLetters {t : List Char} (h : Text.SameLetters s t) :
    IsUuid s ↔ IsUuid t := by
  rw [← matches_uuidPattern_iff, ← matches_uuidPattern_iff,
    ← row_uuidPattern.matches_map_iff caseBlind_uuidClass, h,
    row_uuidPattern.matches_map_iff caseBlind_uuidClass]

/-- A number has no hyphen behind its eighth character. -/
theorem not_isUuid_number (n : Number) : ¬ IsUuid (n.write .plain) := by
  intro h
  have hhyphen := h.hyphen 8 (by decide)
  exact absurd (n.eq_zero_of_minus_write hhyphen) (by decide)

/-! ## The validator -/

theorem uuid_check_iff (value : Value) (args : List String) (record : Record) :
    uuid.check value args record = true ↔ IsUuid value.display.toList :=
  Pattern.accepts_iff.trans matches_uuidPattern_iff

/-- A value passes `uuid` if its text is a UUID.  Then every character of the text is an ASCII one
and no newline, and the value is no number.  Values whose texts differ in the case of letters only
both pass or both fail. -/
theorem uuid_passes_iff (value : Value) (args : List String) (record : Record) :
    let text := value.display.toList
    (uuid.check value args record = true ↔ IsUuid text) ∧
      (uuid.check value args record = true → ∀ c ∈ text, c.toNat < 0x80 ∧ c ≠ '\n') ∧
      (∀ n, value = .number n → uuid.check value args record = false) ∧
      ∀ other : Value, Text.SameLetters text other.display.toList →
        uuid.check other args record = uuid.check value args record := by
  intro text
  refine ⟨uuid_check_iff value args record, fun h c => ?_, ?_, fun other hsame => ?_⟩
  · exact ((uuid_check_iff value args record).1 h).ascii_of_mem
  · rintro n rfl
    rw [← Bool.not_eq_true, uuid_check_iff, Value.display, Number.text, String.toList_ofList]
    exact not_isUuid_number n
  · rw [Bool.eq_iff_iff, uuid_check_iff, uuid_check_iff]
    exact (isUuid_iff_of_sameLetters hsame).symm

/-- A UUID in capitals and in small letters, one with a newline behind it, and a number. -/
theorem uuid_passes_iff_capitals :
    let capitals : Value := .text "123E4567-E89B-52D3-B456-42661417400F"
    let small : Value := .text "123e4567-e89b-52d3-b456-42661417400f"
    IsUuid capitals.display.toList ∧ Text.SameLetters capitals.display.toList small.display.toList ∧
      uuid.check capitals [] .empty = true ∧ uuid.check small [] .empty = true ∧
      uuid.check (.text "123e4567-e89b-52d3-b456-42661417400f\n") [] .empty = false ∧
      uuid.check (.number (.finite true 1)) [] .empty = false := by
  intro capitals small
  obtain ⟨hiff, -, -, hcase⟩ := uuid_passes_iff capitals [] .empty
  have hcheck : uuid.check capitals [] .empty = true := by decide +kernel
  have hsame : Text.SameLetters capitals.display.toList small.display.toList := by decide +kernel
  refine ⟨hiff.1 hcheck, hsame, hcheck, (hcase small hsame).trans hcheck, ?_, ?_⟩
  · rw [← Bool.not_eq_true]
    intro h
    exact absurd ((uuid_passes_iff _ [] .empty).2.1 h '\n' (by decide +kernel)).2 (by decide)
  · exact (uuid_passes_iff (.number (.finite true 1)) [] .empty).2.2.1 _ rfl

end FormRules.Builtin
