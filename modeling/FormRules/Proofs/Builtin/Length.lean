import FormRules.Proofs.Builtin
import FormRules.Proofs.Builtin.Bound
import FormRules.Proofs.Evaluation.Verdict

/-!
# Lengths between bounds

`min` and `max` compare a length with one bound and `between` with two.  A bound is read from
an argument, and the argument may be mistyped: it is not there, or no number stands at its
front, behind white space and a sign (`Bound.BeginsNumber`).  Then the bound is not a number,
and a comparison with it fails for every length, not-a-number included.  So the value does not
pass, and the field is invalid in every record (`mistyped_bound_never_passes`).  One of two
bounds is enough.
-/

namespace FormRules

/-! ## Arguments without a number -/

namespace Bound

/-- The text begins with a digit, or with a point and a digit, behind white space and a sign that
may both be left out. -/
inductive BeginsNumber : List Char → Prop where
  | digit {blanks sign rest : List Char} {c : Char} :
      (∀ b ∈ blanks, Text.isBlank b = true) → sign ∈ [[], ['+'], ['-']] → c.isDigit = true →
        BeginsNumber (blanks ++ (sign ++ c :: rest))
  | point {blanks sign rest : List Char} {c : Char} :
      (∀ b ∈ blanks, Text.isBlank b = true) → sign ∈ [[], ['+'], ['-']] → c.isDigit = true →
        BeginsNumber (blanks ++ (sign ++ '.' :: c :: rest))

theorem mem_signs_iff (s : List Char) :
    s ∈ [[], ['+'], ['-']] ↔ ∃ sign, Numeral.WritesSign sign s := by
  simp only [List.mem_cons, List.not_mem_nil, or_false]
  constructor
  · rintro (rfl | rfl | rfl)
    · exact ⟨_, .none⟩
    · exact ⟨_, .plus⟩
    · exact ⟨_, .minus⟩
  · rintro ⟨_, _ | _ | _⟩ <;> simp

/-- A numeral at the front begins a number. -/
theorem Reads.beginsNumber {n : Numeral} {p : List Char} (h : Reads Char.isDigit n p)
    (rest : List Char) : BeginsNumber (p ++ rest) := by
  obtain ⟨hblanks, hsign, hdigits, -⟩ := h
  have hsign := (mem_signs_iff _).2 ⟨_, hsign⟩
  cases hdigits with
  | whole hne hds =>
    obtain ⟨c, t, rfl⟩ := List.exists_cons_of_ne_nil hne
    simpa using BeginsNumber.digit hblanks hsign (hds c List.mem_cons_self)
  | pointed hne hds _ =>
    obtain ⟨c, t, rfl⟩ := List.exists_cons_of_ne_nil hne
    simpa using BeginsNumber.digit hblanks hsign (hds c List.mem_cons_self)
  | fraction hne hfs =>
    obtain ⟨c, t, rfl⟩ := List.exists_cons_of_ne_nil hne
    simpa using BeginsNumber.point hblanks hsign (hfs c List.mem_cons_self)

/-- Whether the text begins with a digit, or with a point and a digit. -/
def beginsDigits : List Char → Bool
  | '.' :: c :: _ => c.isDigit
  | c :: _ => c.isDigit
  | [] => false

theorem beginsDigits_cons {c : Char} (hc : c.isDigit = true) (rest : List Char) :
    beginsDigits (c :: rest) = true := by
  unfold beginsDigits
  split
  · next h =>
    obtain ⟨rfl, -⟩ := List.cons.inj h
    cases hc
  · next h => rwa [← (List.cons.inj h).1]
  · next h => cases h

/-- White space and a sign are skipped in front of a digit or a point. -/
theorem scanSign_trimStart {blanks sign rest : List Char} {c : Char}
    (hblanks : ∀ b ∈ blanks, Text.isBlank b = true) (hsign : sign ∈ [[], ['+'], ['-']])
    (hc : c.isDigit = true ∨ c = '.') :
    (Numeral.scanSign (Text.trimStart (blanks ++ (sign ++ c :: rest)))).2 = c :: rest := by
  have cls := Numeral.digitClass_isDigit
  have hblank : Text.isBlank c = false := by
    rcases hc with hc | rfl
    · by_contra h
      simp [cls.blank c (by simpa using h)] at hc
    · decide
  obtain ⟨o, ho⟩ := (mem_signs_iff sign).1 hsign
  have hhead : ∀ d, (sign ++ c :: rest).head? = some d → Text.isBlank d = false := by
    intro d hd
    cases ho <;> cases hd
    · exact hblank
    · decide
    · decide
  have hnext : ∀ d, (c :: rest).head? = some d → d ≠ '+' ∧ d ≠ '-' := by
    intro d hd
    obtain rfl : c = d := Option.some.inj hd
    exact cls.not_sign hc
  rw [Text.trimStart, List.dropWhile_append_of_pos hblanks, Numeral.dropWhile_of_head hhead,
    Numeral.scanSign_append ho hnext]

theorem beginsNumber_iff (s : List Char) :
    BeginsNumber s ↔ beginsDigits (Numeral.scanSign (Text.trimStart s)).2 = true := by
  constructor
  · intro h
    cases h with
    | digit hblanks hsign hc =>
      rw [scanSign_trimStart hblanks hsign (.inl hc)]
      exact beginsDigits_cons hc _
    | point hblanks hsign hc =>
      rw [scanSign_trimStart hblanks hsign (.inr rfl)]
      exact hc
  · intro h
    have hblanks : ∀ b ∈ s.takeWhile Text.isBlank, Text.isBlank b = true :=
      fun b hb => List.mem_takeWhile_imp hb
    obtain ⟨sign, hsign, ht⟩ := Numeral.exists_writesSign (Text.trimStart s)
    have hsign := (mem_signs_iff sign).2 ⟨_, hsign⟩
    have hs : s = s.takeWhile Text.isBlank ++ (sign ++ (Numeral.scanSign (Text.trimStart s)).2) := by
      rw [← ht, Text.trimStart, List.takeWhile_append_dropWhile]
    generalize (Numeral.scanSign (Text.trimStart s)).2 = t at h hs
    rw [hs]
    unfold beginsDigits at h
    split at h
    · exact .point hblanks hsign h
    · exact .digit hblanks hsign h
    · cases h

instance : DecidablePred BeginsNumber := fun s => decidable_of_iff _ (beginsNumber_iff s).symm

/-- The argument is not there, or no number stands at its front. -/
def Mistyped (arg : Option String) : Prop := ∀ a, arg = some a → ¬ BeginsNumber a.toList

theorem ofArgument_of_mistyped {args : List String} {i : Nat} (h : Mistyped args[i]?) :
    ofArgument args i = .nan := by
  rw [ofArgument]
  cases harg : args[i]? with
  | none => rfl
  | some a =>
    rw [Option.elim_some]
    refine ofText_of_no_ascii fun n p hp hreads => h a harg ?_
    obtain ⟨rest, hrest⟩ := hp
    rw [← hrest]
    exact hreads.beginsNumber rest

end Bound

/-! ## Comparisons -/

namespace Builtin

variable {args : List String} {i : Nat}

theorem atLeast_of_nan (h : Bound.ofArgument args i = .nan) (length : Number) :
    atLeast args i length = false := by
  rw [atLeast, h, decide_eq_false_iff_not]
  exact Number.not_nan_le length

theorem atMost_of_nan (h : Bound.ofArgument args i = .nan) (length : Number) :
    atMost args i length = false := by
  rw [atMost, h, decide_eq_false_iff_not]
  exact Number.not_le_nan length

/-- The validators that need bounds, each with the places of its bounds among the arguments. -/
def bounded : List (String × Validator × List Nat) :=
  [("min", min, [0]), ("max", max, [0]), ("between", between, [0, 1])]

theorem check?_withBuiltins_of_mem_bounded {name : String} {v : Validator} {places : List Nat}
    (hv : (name, v, places) ∈ bounded) (catalog : Catalog) :
    (Registry.withBuiltins catalog).check? name = some v.check := by
  simp only [bounded, List.mem_cons, Prod.mk.injEq, List.not_mem_nil, or_false] at hv
  rw [Registry.check?, Registry.lookup_withBuiltins]
  rcases hv with ⟨rfl, rfl, -⟩ | ⟨rfl, rfl, -⟩ | ⟨rfl, rfl, -⟩ <;> rfl

theorem check_of_nan {name : String} {v : Validator} {places : List Nat}
    (hv : (name, v, places) ∈ bounded) (hi : i ∈ places) (h : Bound.ofArgument args i = .nan)
    (value : Value) (record : Record) : v.check value args record = false := by
  simp only [bounded, List.mem_cons, Prod.mk.injEq, List.not_mem_nil, or_false] at hv
  rcases hv with ⟨-, rfl, rfl⟩ | ⟨-, rfl, rfl⟩ | ⟨-, rfl, rfl⟩
  · obtain rfl := List.mem_singleton.1 hi
    exact atLeast_of_nan h value.length
  · obtain rfl := List.mem_singleton.1 hi
    exact atMost_of_nan h value.length
  · simp only [List.mem_cons, List.not_mem_nil, or_false] at hi
    rcases hi with rfl | rfl
    · simp only [between, atLeast_of_nan h, Bool.false_and]
    · simp only [between, atMost_of_nan h, Bool.and_false]

end Builtin

/-! ## Rules that no value passes -/

/-- A rule whose check fails makes its field invalid. -/
theorem Registry.invalid_of_check {registry : Registry} {record : Record} {ruleSet : RuleSet}
    {field : String} {rule : Rule} (mem : (field, rule) ∈ ruleSet.rules)
    (known : ∀ r ∈ ruleSet.rules, registry.contains r.2.name = true)
    {check : Value → List String → Record → Bool} (hcheck : registry.check? rule.name = some check)
    (fails : check (record.normalized field) rule.args record = false) (overrides : Overrides) :
    ∃ result, registry.evaluate record ruleSet overrides = .ok result ∧ result.valid = false ∧
      result.errors.has field = true := by
  obtain ⟨result, hresult⟩ := exists_evaluate_eq_ok
    (registry.checkRules_eq_ok_of_contains ruleSet known) record overrides
  obtain ⟨⟨field', chain⟩, hentry, rfl, hrule⟩ := (mem_rules_iff ruleSet _).1 mem
  have hfails : registry.fails record field' rule = true := by
    rw [fails_eq_any_check?, hcheck, Option.any_some, fails, Bool.not_false]
  have hhas := has_of_evaluate_eq_ok hresult hentry (List.any_eq_true.2 ⟨rule, hrule, hfails⟩)
  exact ⟨result, hresult, Result.valid_of_has hhas, hhas⟩

namespace Builtin

/-- If a bound that a validator needs is mistyped, no value passes.  The built-in validators stand
under their names, and a rule of any registry that asks for one of them with such a bound makes its
field invalid on every record, as long as every rule names a registered validator. -/
theorem mistyped_bound_never_passes {name : String} {v : Validator} {places : List Nat}
    (hv : (name, v, places) ∈ bounded) {args : List String} {i : Nat} (hi : i ∈ places)
    (mistyped : Bound.Mistyped args[i]?) :
    (∀ value record, v.check value args record = false) ∧
      (∀ catalog, (Registry.withBuiltins catalog).check? name = some v.check) ∧
      ∀ (registry : Registry) (ruleSet : RuleSet) (field : String) (rule : Rule),
        registry.check? rule.name = some v.check → rule.args = args →
        (field, rule) ∈ ruleSet.rules →
        (∀ r ∈ ruleSet.rules, registry.contains r.2.name = true) →
        ∀ record overrides, ∃ result,
          registry.evaluate record ruleSet overrides = .ok result ∧ result.valid = false ∧
            result.errors.has field = true := by
  have never := check_of_nan hv hi (Bound.ofArgument_of_mistyped mistyped)
  refine ⟨never, check?_withBuiltins_of_mem_bounded hv, ?_⟩
  rintro registry ruleSet field rule hcheck rfl mem known record overrides
  exact Registry.invalid_of_check mem known hcheck (never _ record) overrides

/-- The second bound has a sign, a point and an exponent, but no digit before the exponent. -/
theorem mistyped_bound_never_passes_second :
    let args := ["1", "\u2003-.e5"]
    let ruleSet : RuleSet :=
      Expressions.parsed (.ofList [("age", "min:1"), ("name", "required|between:1,\u2003-.e5")])
    let record : Record := .ofList [("name", .text "Jo"), ("age", .number (.infinite false))]
    Bound.Mistyped args[1]? ∧ between.check (.number .nan) args .empty = false ∧
      ∃ result, Registry.standard.evaluate record ruleSet .empty = .ok result ∧
        result.valid = false ∧ result.errors.has "name" = true := by
  intro args ruleSet record
  have mistyped : Bound.Mistyped args[1]? := by
    rintro _ ⟨⟩
    decide
  have hv : ("between", between, [0, 1]) ∈ bounded := by simp [bounded]
  have known : ∀ r ∈ ruleSet.rules, Registry.standard.contains r.2.name = true := by decide
  obtain ⟨never, hcheck, invalid⟩ := mistyped_bound_never_passes hv (by simp) mistyped
  exact ⟨mistyped, never _ _, invalid .standard ruleSet "name" ⟨"between", args⟩
    (hcheck .builtin) rfl (by decide) known record .empty⟩

end Builtin

end FormRules
