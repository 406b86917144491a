import FormRules.Proofs.Evaluation

/-!
# Why evaluating has no result

Evaluating has no result for one reason only: some rule names no registered
validator.  The first such rule, field by field and then in the order of the
chain, is the one that is reported (`Registry.FirstUnknown`).

The check of the rules and the evaluation are two ways through the rules.  The
first looks at names only, and the second also runs validators and collects
messages.  Both report the same rule (`check_and_evaluate_report_first_unknown`),
so the record and the overrides have no part in whether evaluating has a result,
nor in the error if it has none.
-/

namespace FormRules

namespace RuleSet

/-- The first rule of a rule set with some property stands after rules without it: those of the
fields before its own, and those before it in its chain. -/
theorem find?_rules_eq_some_iff (ruleSet : RuleSet) (p : Rule → Bool) (field : String)
    (rule : Rule) :
    (ruleSet.rules.find? fun r => p r.2) = some (field, rule) ↔
      p rule = true ∧ ∃ before chain₁ chain₂ after,
        ruleSet.entries = before ++ (field, chain₁ ++ rule :: chain₂) :: after ∧
          (∀ e ∈ before, ∀ r ∈ e.2, p r = false) ∧ ∀ r ∈ chain₁, p r = false := by
  rw [rules, List.flatMap_def, List.find?_flatten_eq_some_iff]
  refine and_congr_right fun _ => ⟨?_, ?_⟩
  · rintro ⟨as, ys, zs, bs, hentries, has, hys⟩
    -- The flat list is cut at a field first, and the chain of that field at the rule.
    obtain ⟨before, rest, hsplit, rfl, hrest⟩ := List.map_eq_append_iff.1 hentries
    obtain ⟨e, after, rfl, hchain, -⟩ := List.map_eq_cons_iff.1 hrest
    obtain ⟨field', chain⟩ := e
    obtain ⟨chain₁, rules, rfl, rfl, hrules⟩ := List.map_eq_append_iff.1 hchain
    obtain ⟨rule', chain₂, rfl, hrule, -⟩ := List.map_eq_cons_iff.1 hrules
    cases hrule
    refine ⟨before, chain₁, chain₂, after, hsplit, ?_, ?_⟩
    · intro e he r hr
      simpa using has _ (List.mem_map_of_mem he) (e.1, r) (List.mem_map_of_mem hr)
    · intro r hr
      simpa using hys _ (List.mem_map_of_mem hr)
  · rintro ⟨before, chain₁, chain₂, after, hentries, hbefore, hchain⟩
    refine ⟨before.map fun e => e.2.map fun r => (e.1, r), chain₁.map fun r => (field, r),
      chain₂.map fun r => (field, r), after.map fun e => e.2.map fun r => (e.1, r), ?_, ?_, ?_⟩
    · simp [hentries]
    · intro l hl x hx
      obtain ⟨e, he, rfl⟩ := List.mem_map.1 hl
      obtain ⟨r, hr, rfl⟩ := List.mem_map.1 hx
      simp [hbefore e he r hr]
    · intro x hx
      obtain ⟨r, hr, rfl⟩ := List.mem_map.1 hx
      simp [hchain r hr]

end RuleSet

namespace Registry

/-- The error names a rule whose validator is not registered, and the validator of every rule before
it is: of the fields before its own, and before it in its own chain. -/
def FirstUnknown (registry : Registry) (ruleSet : RuleSet) (e : UnknownValidator) : Prop :=
  ∃ before chain₁ args chain₂ after,
    ruleSet.entries = before ++ (e.field, chain₁ ++ ⟨e.validator, args⟩ :: chain₂) :: after ∧
      registry.contains e.validator = false ∧
      (∀ entry ∈ before, ∀ r ∈ entry.2, registry.contains r.name = true) ∧
      ∀ r ∈ chain₁, registry.contains r.name = true

variable (registry : Registry) (ruleSet : RuleSet)

/-- The check reports the first rule whose validator is not registered. -/
theorem checkRules_eq_error_iff (e : UnknownValidator) :
    registry.checkRules ruleSet = .error e ↔ registry.FirstUnknown ruleSet e := by
  have hcheck : registry.checkRules ruleSet = .error e ↔ ∃ args,
      (ruleSet.rules.find? fun r => !registry.contains r.2.name) =
        some (e.field, ⟨e.validator, args⟩) := by
    rw [checkRules]
    cases ruleSet.rules.find? fun r => !registry.contains r.2.name with
    | none => simp
    | some r =>
      obtain ⟨field, name, args⟩ := r
      obtain ⟨field', name'⟩ := e
      simp
  simp only [hcheck, FirstUnknown,
    ruleSet.find?_rules_eq_some_iff fun rule => !registry.contains rule.name, Bool.not_eq_true',
    Bool.not_eq_false']
  constructor
  · rintro ⟨args, unknown, before, chain₁, chain₂, after, hentries, hbefore, hchain⟩
    exact ⟨before, chain₁, args, chain₂, after, hentries, unknown, hbefore, hchain⟩
  · rintro ⟨before, chain₁, args, chain₂, after, hentries, unknown, hbefore, hchain⟩
    exact ⟨args, unknown, before, chain₁, chain₂, after, hentries, hbefore, hchain⟩

theorem exists_checkRules_eq_error_iff :
    (∃ e, registry.checkRules ruleSet = .error e) ↔
      ∃ entry ∈ ruleSet.entries, ∃ rule ∈ entry.2, registry.contains rule.name = false := by
  have hok : (∃ e, registry.checkRules ruleSet = .error e) ↔
      ¬ registry.checkRules ruleSet = .ok () := by
    cases registry.checkRules ruleSet <;> simp
  rw [hok, checkRules_eq_ok_iff]
  simp only [Classical.not_forall, exists_prop, Bool.not_eq_true]

theorem exists_evaluate_eq_ok_iff (record : Record) (overrides : Overrides) :
    (∃ result, registry.evaluate record ruleSet overrides = .ok result) ↔
      registry.checkRules ruleSet = .ok () :=
  ⟨fun ⟨_, h⟩ => checkRules_eq_ok h, fun h => exists_evaluate_eq_ok h record overrides⟩

/-! ## The check and the evaluation -/

/-- The check and the evaluation report the same error, whatever the record and the overrides are.
It is the first rule whose validator is not registered, and there is an error if there is such a
rule.  Evaluating has a result exactly if the check has no error. -/
theorem check_and_evaluate_report_first_unknown :
    (∀ e, registry.checkRules ruleSet = .error e ↔ registry.FirstUnknown ruleSet e) ∧
    (∀ record overrides e, registry.evaluate record ruleSet overrides = .error e ↔
      registry.checkRules ruleSet = .error e) ∧
    ((∃ e, registry.checkRules ruleSet = .error e) ↔
      ∃ entry ∈ ruleSet.entries, ∃ rule ∈ entry.2, registry.contains rule.name = false) ∧
    (∀ record record' overrides overrides' e,
      registry.evaluate record ruleSet overrides = .error e ↔
        registry.evaluate record' ruleSet overrides' = .error e) ∧
    ∀ record overrides, (∃ result, registry.evaluate record ruleSet overrides = .ok result) ↔
      registry.checkRules ruleSet = .ok () := by
  refine ⟨registry.checkRules_eq_error_iff ruleSet, registry.evaluate_eq_error_iff ruleSet,
    registry.exists_checkRules_eq_error_iff ruleSet, ?_,
    registry.exists_evaluate_eq_ok_iff ruleSet⟩
  intro record record' overrides overrides' e
  rw [evaluate_eq_error_iff, evaluate_eq_error_iff]

end Registry

end FormRules
