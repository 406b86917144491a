import FormRules.Proofs.Builtin.Dependent
import FormRules.Proofs.Value

/-!
# What counts as entered

Two validators ask whether something was entered, and they mean different things.

* `required` asks for a length above zero.  A text has one if some character of it
  is not the digit zero (`required_passes_text_iff`).  So zeros do not count, and
  white space does, if it was not trimmed before.
* `required_with` asks of other fields whether they are blank, which is the same as
  whether validators would be given the empty text for them
  (`requiredWith_fails_iff_normalized`).  So zeros count, and white space does not.

A field that holds `0` makes another field required and does not meet the
requirement itself.
-/

namespace FormRules

/-! ## `required` -/

namespace Builtin

theorem required_check_text_iff (s : String) (args : List String) (record : Record) :
    required.check (.text s) args record = true ↔ ∃ c ∈ s.toList, c ≠ '0' := by
  rw [← Value.zero_lt_textLength_iff]
  exact decide_eq_true_iff

/-- A text passes `required` if some character of it is not the digit zero.  Its length is a number
in any case: a run of digits, however long, is read as the number that it writes, and it is refused
only if all of it is zeros. -/
theorem required_passes_text_iff (s : String) (args : List String) (record : Record) :
    (required.check (.text s) args record = true ↔ ∃ c ∈ s.toList, c ≠ '0') ∧
      (Value.text s).length ≠ .nan ∧
      (s ≠ "" → (∀ c ∈ s.toList, c.isDigit = true) →
        Decimal.read? s.toList = some ⟨false, Text.digitsValue s.toList, 0⟩ ∧
          (Value.text s).length = .ofNat (Text.digitsValue s.toList) ∧
          (required.check (.text s) args record = false ↔ ∀ c ∈ s.toList, c = '0')) := by
  have hpasses := required_check_text_iff s args record
  refine ⟨hpasses, Value.textLength_ne_nan s.toList, fun hne hdigits => ?_⟩
  have hlist : s.toList ≠ [] := by simpa using hne
  refine ⟨Decimal.read?_of_digits hlist hdigits, Value.textLength_of_digits hlist hdigits, ?_⟩
  rw [← Bool.not_eq_true, hpasses]
  simp only [not_exists, not_and, not_not]

/-- Digits that write a number beyond the finite ones, after a zero. -/
theorem required_passes_text_iff_beyond :
    let s := String.ofList ('0' :: '7' :: List.replicate 400 '0')
    s ≠ "" ∧ (∀ c ∈ s.toList, c.isDigit = true) ∧ (Value.text s).length = .infinite false ∧
      required.check (.text s) [] .empty = true := by
  intro s
  have hs : s.toList = '0' :: '7' :: List.replicate 400 '0' := String.toList_ofList
  have hne : s ≠ "" := by
    intro h
    rw [h] at hs
    cases hs
  have hdigits : ∀ c ∈ s.toList, c.isDigit = true := by
    intro c hc
    simp only [hs, List.mem_cons, List.mem_replicate] at hc
    rcases hc with rfl | rfl | ⟨-, rfl⟩ <;> decide
  obtain ⟨hpasses, -, hread⟩ := required_passes_text_iff s [] .empty
  have hlength : (Value.text s).length = .infinite false := by
    rw [(hread hne hdigits).2.1, hs]
    decide +kernel
  have hseven : '7' ∈ s.toList := by
    rw [hs]
    exact List.mem_cons_of_mem _ List.mem_cons_self
  exact ⟨hne, hdigits, hlength, hpasses.2 ⟨'7', hseven, by decide⟩⟩

end Builtin

/-! ## `required_with` -/

theorem Record.normalized_insert (record : Record) (field : String) (v : Value) (key : String) :
    Record.normalized (record.insert field v) key =
      if field = key then v.normalize else record.normalized key := by
  rw [normalized, OrderedMap.get?_insert]
  split
  · rfl
  · rfl

namespace Builtin

theorem isPresent_iff (record : Record) (field : String) :
    isPresent record field = true ↔ record.normalized field ≠ .text "" := by
  rw [isPresent_eq, Bool.not_eq_true', ← Bool.not_eq_true, record.all_isBlank_iff]

theorem requiredWith_check_eq_false_iff (value : Value) (args : List String) (record : Record) :
    requiredWith.check value args record = false ↔
      required.check value [] record = false ∧ ∃ a ∈ args, record.normalized a ≠ .text "" := by
  simp only [requiredWith, required, Bool.or_eq_false_iff, Bool.not_eq_false', List.any_eq_true,
    isPresent_iff]
  exact and_comm

/-- More names and more filled fields can only make the check fail. -/
theorem requiredWith_check_eq_false_mono {value : Value} {args args' : List String}
    {record record' : Record} (hargs : args ⊆ args')
    (hfilled : ∀ a ∈ args, record.normalized a ≠ .text "" → record'.normalized a ≠ .text "")
    (h : requiredWith.check value args record = false) :
    requiredWith.check value args' record' = false := by
  rw [requiredWith_check_eq_false_iff] at h ⊢
  obtain ⟨hrequired, a, ha, hentered⟩ := h
  exact ⟨hrequired, a, hargs ha, hfilled a ha hentered⟩

/-- `required_with` fails if `required` fails and some listed field is not normalized to the empty
text.  Being blank and being normalized to the empty text are the same, and an absent field is both.
So the order of the names and their repetitions do not matter, and where the check fails, it still
does with more names and with more fields filled. -/
theorem requiredWith_fails_iff_normalized (value : Value) (args : List String) (record : Record) :
    (requiredWith.check value args record = false ↔
      required.check value [] record = false ∧ ∃ a ∈ args, record.normalized a ≠ .text "") ∧
    (∀ v : Value, v.isBlank = true ↔ v.normalize = .text "") ∧
    (∀ a, (record.get? a).all Value.isBlank = true ↔ record.normalized a = .text "") ∧
    (∀ args' : List String, (∀ a, a ∈ args ↔ a ∈ args') →
      requiredWith.check value args record = requiredWith.check value args' record) ∧
    (∀ (args' : List String) (record' : Record), args ⊆ args' →
      (∀ a ∈ args, record.normalized a ≠ .text "" → record'.normalized a ≠ .text "") →
      requiredWith.check value args record = false →
        requiredWith.check value args' record' = false) ∧
    ∀ (field : String) (v : Value), v.isBlank = false →
      requiredWith.check value args record = false →
        requiredWith.check value args (record.insert field v) = false := by
  refine ⟨requiredWith_check_eq_false_iff value args record, Value.isBlank_iff,
    record.all_isBlank_iff, ?_, ?_, ?_⟩
  · intro args' hsame
    have hsub : args ⊆ args' := fun a => (hsame a).1
    have hsub' : args' ⊆ args := fun a => (hsame a).2
    rw [Bool.eq_iff_iff, ← not_iff_not, Bool.not_eq_true, Bool.not_eq_true]
    exact ⟨requiredWith_check_eq_false_mono hsub fun _ _ => id,
      requiredWith_check_eq_false_mono hsub' fun _ _ => id⟩
  · intro args' record' hargs hfilled
    exact requiredWith_check_eq_false_mono hargs hfilled
  · intro field v hv
    refine requiredWith_check_eq_false_mono (List.Subset.refl args) fun a _ hentered => ?_
    rw [Record.normalized_insert]
    split
    · rwa [ne_eq, ← v.isBlank_iff, Bool.not_eq_true]
    · exact hentered

/-- A zero is not blank and has no length, and an em space is blank. -/
theorem requiredWith_fails_iff_normalized_zero :
    let record : Record := .ofList [("nick", .text "\u2003"), ("age", .number (.finite true 0))]
    requiredWith.check (.text "0") ["nick", "age"] record = false ∧
      requiredWith.check (.text "0") ["age", "age", "nick"] record = false ∧
      requiredWith.check (.text "0") ["fax", "age", "nick"] .empty = true ∧
      requiredWith.check (.text "0") ["fax", "age", "nick"] (record.insert "nick" (.text "Jo")) =
        false := by
  intro record
  obtain ⟨hfails, -, -, hsame, hmono, -⟩ :=
    requiredWith_fails_iff_normalized (.text "0") ["nick", "age"] record
  have h : requiredWith.check (.text "0") ["nick", "age"] record = false :=
    hfails.2 ⟨by decide +kernel, "age", by decide, by decide⟩
  refine ⟨h, ?_, by decide, ?_⟩
  · rw [← hsame ["age", "age", "nick"] fun a => by simp [or_comm]]
    exact h
  · exact hmono ["fax", "age", "nick"] _ (by simp) (by decide) h

end Builtin

end FormRules
