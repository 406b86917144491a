import FormRules.Evaluation
import FormRules.Proofs.Override

/-!
# What a pass depends on

*Its end.*  A pass ends at the first rule that names no registered validator
(`stopped_run`), which is the one that `checkRules` looks for.  So checking the
rules says whether evaluating them has a result, and the error if it has none
(`map_evaluate`), whatever the record and the overrides are.  Of a registry only the
names matter to it (`evaluate_cases_of_contains_eq`).

*Its failures.*  The failures of a pass that is not ended are those of its rules,
one by one (`failures_run`).

*Its overrides.*  A pass only looks overrides up, so those that say the same give
the same pass (`evaluate_eq_of_same`).
-/

namespace FormRules

namespace Registry

theorem contains_eq_isSome_lookup (registry : Registry) (name : String) :
    registry.contains name = (registry.lookup name).isSome := by
  rw [contains, lookup, Option.isSome_map]
  rfl

theorem mem_rules_iff (ruleSet : RuleSet) (r : String × Rule) :
    r ∈ ruleSet.rules ↔ ∃ e ∈ ruleSet.entries, e.1 = r.1 ∧ r.2 ∈ e.2 := by
  rw [RuleSet.rules, List.mem_flatMap]
  refine exists_congr fun e => and_congr_right fun _ => ?_
  rw [List.mem_map]
  constructor
  · rintro ⟨rule, hrule, rfl⟩
    exact ⟨rfl, hrule⟩
  · rintro ⟨hfield, hrule⟩
    exact ⟨r.2, hrule, by rw [hfield]⟩

/-- What a rule of a field leaves if it fails, found by the name of its validator. -/
def failure? (registry : Registry) (record : Record) (overrides : Overrides) (r : String × Rule) :
    Option Failure :=
  (registry.lookup r.2.name).bind fun v => Pass.failure? v record overrides r.1 r.2

end Registry

/-! ## The end of a pass -/

namespace Pass

variable (registry : Registry) (record : Record) (overrides : Overrides)

theorem stopped_run (rules : List (String × Rule)) :
    (run registry record overrides rules).stopped =
      (rules.find? fun r => !registry.contains r.2.name).map fun r => ⟨r.1, r.2.name⟩ := by
  induction rules with
  | nil => rfl
  | cons r rest ih =>
    obtain ⟨field, rule⟩ := r
    rw [run, List.find?_cons, registry.contains_eq_isSome_lookup]
    cases registry.lookup rule.name with
    | none => rfl
    | some v => exact ih

theorem failures_run {rules : List (String × Rule)}
    (known : ∀ r ∈ rules, registry.contains r.2.name = true) :
    (run registry record overrides rules).failures =
      rules.filterMap (registry.failure? record overrides) := by
  induction rules with
  | nil => rfl
  | cons r rest ih =>
    obtain ⟨field, rule⟩ := r
    have hr : (registry.lookup rule.name).isSome = true := by
      rw [← registry.contains_eq_isSome_lookup]
      exact known (field, rule) List.mem_cons_self
    obtain ⟨v, hv⟩ := Option.isSome_iff_exists.1 hr
    have hrest := ih fun r h => known r (List.mem_cons_of_mem _ h)
    have hfailure : registry.failure? record overrides (field, rule) =
        failure? v record overrides field rule := by
      rw [Registry.failure?, hv, Option.bind_some]
    rw [run, hv, List.filterMap_cons, hfailure]
    simp only [hrest]
    cases failure? v record overrides field rule <;> rfl

end Pass

/-! ## Checking and evaluating -/

namespace Registry

variable (registry : Registry) (ruleSet : RuleSet)

/-- Evaluating has a result if the rules pass the check, and else the error of the check. -/
theorem map_evaluate (record : Record) (overrides : Overrides) :
    (registry.evaluate record ruleSet overrides).map (fun _ => ()) =
      registry.checkRules ruleSet := by
  rw [evaluate, pass, Pass.result, Pass.stopped_run, checkRules]
  cases ruleSet.rules.find? fun r => !registry.contains r.2.name <;> rfl

theorem evaluate_eq_error_iff (record : Record) (overrides : Overrides) (e : UnknownValidator) :
    registry.evaluate record ruleSet overrides = .error e ↔
      registry.checkRules ruleSet = .error e := by
  rw [← registry.map_evaluate ruleSet record overrides]
  cases registry.evaluate record ruleSet overrides with
  | error e' => simp [Except.map]
  | ok result => simp [Except.map]

theorem exists_evaluate_eq_ok {registry : Registry} {ruleSet : RuleSet}
    (h : registry.checkRules ruleSet = .ok ()) (record : Record) (overrides : Overrides) :
    ∃ result, registry.evaluate record ruleSet overrides = .ok result := by
  rw [← registry.map_evaluate ruleSet record overrides] at h
  cases hr : registry.evaluate record ruleSet overrides with
  | error e => rw [hr] at h; cases h
  | ok result => exact ⟨result, rfl⟩

/-- Registries with the same names report the same error, or both evaluate to a result. -/
theorem evaluate_cases_of_contains_eq {registry other : Registry}
    (same : registry.contains = other.contains) (record : Record) (ruleSet : RuleSet)
    (overrides otherOverrides : Overrides) :
    (∃ e, registry.evaluate record ruleSet overrides = .error e ∧
        other.evaluate record ruleSet otherOverrides = .error e) ∨
      ∃ r s, registry.evaluate record ruleSet overrides = .ok r ∧
        other.evaluate record ruleSet otherOverrides = .ok s := by
  have hsame : registry.checkRules ruleSet = other.checkRules ruleSet := by
    rw [checkRules, checkRules, same]
  -- The check of the rules says which ending it is, and it is the same check in both.
  cases hcheck : other.checkRules ruleSet with
  | error e =>
    exact .inl ⟨e, (registry.evaluate_eq_error_iff ruleSet record overrides e).2
        (hsame.trans hcheck),
      (other.evaluate_eq_error_iff ruleSet record otherOverrides e).2 hcheck⟩
  | ok _ =>
    obtain ⟨r, hr⟩ := exists_evaluate_eq_ok (hsame.trans hcheck) record overrides
    obtain ⟨s, hs⟩ := exists_evaluate_eq_ok hcheck record otherOverrides
    exact .inr ⟨r, s, hr, hs⟩

theorem checkRules_eq_ok {registry : Registry} {ruleSet : RuleSet} {record : Record}
    {overrides : Overrides} {result : Result}
    (h : registry.evaluate record ruleSet overrides = .ok result) :
    registry.checkRules ruleSet = .ok () := by
  rw [← registry.map_evaluate ruleSet record overrides, h]
  rfl

theorem errors_eq_of_evaluate_eq_ok {registry : Registry} {ruleSet : RuleSet} {record : Record}
    {overrides : Overrides} {result : Result}
    (h : registry.evaluate record ruleSet overrides = .ok result) :
    result.errors = (registry.pass record ruleSet overrides).errors := by
  rw [evaluate, Pass.result] at h
  split at h
  · cases h
  · cases h
    rfl

theorem checkRules_eq_ok_iff_rules :
    registry.checkRules ruleSet = .ok () ↔
      ∀ r ∈ ruleSet.rules, registry.contains r.2.name = true := by
  have hfind : registry.checkRules ruleSet = .ok () ↔
      (ruleSet.rules.find? fun r => !registry.contains r.2.name) = none := by
    rw [checkRules]
    cases ruleSet.rules.find? fun r => !registry.contains r.2.name <;> simp
  rw [hfind, List.find?_eq_none]
  simp only [Bool.not_eq_true', Bool.not_eq_false]

/-- The check has no error if every rule of every field names a registered validator. -/
theorem checkRules_eq_ok_iff :
    registry.checkRules ruleSet = .ok () ↔
      ∀ e ∈ ruleSet.entries, ∀ rule ∈ e.2, registry.contains rule.name = true := by
  rw [checkRules_eq_ok_iff_rules]
  constructor
  · intro h e he rule hrule
    exact h (e.1, rule) ((mem_rules_iff ruleSet _).2 ⟨e, he, rfl, hrule⟩)
  · intro h r hr
    obtain ⟨e, he, -, hrule⟩ := (mem_rules_iff ruleSet r).1 hr
    exact h e he r.2 hrule

theorem checkRules_eq_ok_of_contains
    (known : ∀ r ∈ ruleSet.rules, registry.contains r.2.name = true) :
    registry.checkRules ruleSet = .ok () :=
  (registry.checkRules_eq_ok_iff_rules ruleSet).2 known

end Registry

/-! ## Overrides that say the same -/

theorem Outcome.resolve_eq_of_same {a b : Overrides} (h : a.same b = true) (o : Outcome)
    (field validator : String) : o.resolve field validator a = o.resolve field validator b := by
  rw [resolve, resolve, Overrides.lookup_eq_of_same h]

theorem Pass.failure?_eq_of_same {a b : Overrides} (h : a.same b = true) (v : Registered)
    (record : Record) (field : String) (rule : Rule) :
    failure? v record a field rule = failure? v record b field rule := by
  simp only [failure?, Outcome.resolve_eq_of_same h]

theorem Pass.run_eq_of_same {a b : Overrides} (h : a.same b = true) (registry : Registry)
    (record : Record) (rules : List (String × Rule)) :
    run registry record a rules = run registry record b rules := by
  induction rules with
  | nil => rfl
  | cons r rest ih =>
    obtain ⟨field, rule⟩ := r
    rw [run, run]
    cases registry.lookup rule.name with
    | none => rfl
    | some v => simp only [ih, Pass.failure?_eq_of_same h]

theorem Registry.evaluate_eq_of_same {a b : Overrides} (h : a.same b = true)
    (registry : Registry) (record : Record) (ruleSet : RuleSet) :
    registry.evaluate record ruleSet a = registry.evaluate record ruleSet b := by
  rw [evaluate, evaluate, pass, pass, Pass.run_eq_of_same h]

end FormRules
