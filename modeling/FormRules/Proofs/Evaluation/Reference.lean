import FormRules.Proofs.Errors
import FormRules.Proofs.Evaluation

/-!
# Evaluation without a loop

The result of a pass can be told field by field, with no regard to how it is
collected.  A rule *fails* if its validator is registered and refuses the value
of the field.  The *reference* has an entry for every field with a rule that
fails, in the order of the fields, and in it the messages of exactly those rules,
in the order of the chain.

If every rule names a registered validator, a pass has a result, and its entries
are the reference (`evaluate_eq_reference`).  The proof tells the failures of a
pass chain by chain (`messages_failures_chain`) and leaves the collecting to
`Errors.entries_addAll_spread`.
-/

namespace FormRules

namespace Registry

/-! ## The reference -/

/-- Whether a rule of a field fails: its validator refuses the normalized value. -/
def fails (registry : Registry) (record : Record) (field : String) (rule : Rule) : Bool :=
  (registry.lookup rule.name).any fun v =>
    !v.validator.check (record.normalized field) rule.args record

/-- The message of a rule of a field, if its validator is registered. -/
def message? (registry : Registry) (record : Record) (overrides : Overrides) (field : String)
    (rule : Rule) : Option String :=
  (registry.lookup rule.name).map fun v =>
    (v.run (record.normalized field) rule.args record).resolve field rule.name overrides

/-- The messages of the rules of a chain that fail. -/
def chainMessages (registry : Registry) (record : Record) (overrides : Overrides) (field : String)
    (chain : Chain) : List String :=
  (chain.filter (registry.fails record field)).filterMap (registry.message? record overrides field)

/-- The fields with a rule that fails, each with the messages of those rules. -/
def reference (registry : Registry) (record : Record) (ruleSet : RuleSet) (overrides : Overrides) :
    List (String × List String) :=
  (ruleSet.entries.filter fun e => e.2.any (registry.fails record e.1)).map fun e =>
    (e.1, registry.chainMessages record overrides e.1 e.2)

/-! ## Chains -/

variable (registry : Registry) (record : Record) (overrides : Overrides)

/-- What a rule leaves is its message, if it fails. -/
theorem map_failure? (field : String) (rule : Rule) :
    (registry.failure? record overrides (field, rule)).map (fun f => (f.field, f.message)) =
      if registry.fails record field rule then
        (registry.message? record overrides field rule).map fun m => (field, m)
      else none := by
  rw [failure?, fails, message?]
  cases registry.lookup rule.name with
  | none => rfl
  | some v =>
    cases hpass : v.validator.check (record.normalized field) rule.args record <;>
      simp [Pass.failure?, Registered.run, hpass]

/-- What the rules of a chain leave are the messages of those that fail. -/
theorem messages_failures_chain (field : String) (chain : Chain) :
    ((chain.map fun rule => (field, rule)).filterMap (registry.failure? record overrides)).map
        (fun f => (f.field, f.message)) =
      (registry.chainMessages record overrides field chain).map fun m => (field, m) := by
  rw [List.map_filterMap, List.filterMap_map, chainMessages, List.filterMap_filter,
    List.map_filterMap]
  refine List.filterMap_congr fun rule _ => ?_
  rw [Function.comp_apply, registry.map_failure?]
  split <;> rfl

theorem exists_message?_of_fails {field : String} {rule : Rule}
    (h : registry.fails record field rule = true) :
    ∃ m, registry.message? record overrides field rule = some m := by
  rw [fails, Option.any_eq_true] at h
  obtain ⟨v, hv, -⟩ := h
  exact ⟨_, by rw [message?, hv]; rfl⟩

/-- Every rule that fails leaves one message. -/
theorem length_chainMessages (field : String) (chain : Chain) :
    (registry.chainMessages record overrides field chain).length =
      chain.countP (registry.fails record field) := by
  rw [chainMessages, List.length_filterMap_eq_countP, List.countP_filter]
  refine List.countP_congr fun rule _ => ?_
  rw [Bool.and_eq_true, and_iff_right_iff_imp]
  intro hfails
  obtain ⟨m, hm⟩ := registry.exists_message?_of_fails record overrides hfails
  rw [hm]
  rfl

/-- A chain has messages if one of its rules fails. -/
theorem isEmpty_chainMessages (field : String) (chain : Chain) :
    (registry.chainMessages record overrides field chain).isEmpty =
      !chain.any (registry.fails record field) := by
  rw [Bool.eq_iff_iff, List.isEmpty_iff_length_eq_zero, length_chainMessages, List.countP_eq_zero,
    Bool.not_eq_true', List.any_eq_false]

/-! ## Rule sets -/

/-- What the rules of a rule set leave are the messages of its chains, one after the other. -/
theorem messages_failures_rules (ruleSet : RuleSet) :
    (ruleSet.rules.filterMap (registry.failure? record overrides)).map
        (fun f => (f.field, f.message)) =
      Errors.spread (ruleSet.entries.map fun e =>
        (e.1, registry.chainMessages record overrides e.1 e.2)) := by
  rw [RuleSet.rules, Errors.spread]
  induction ruleSet.entries with
  | nil => rfl
  | cons e rest ih =>
    rw [List.flatMap_cons, List.filterMap_append, List.map_append, messages_failures_chain, ih]
    rfl

/-- The reference leaves out the fields without messages, and no other. -/
theorem filter_chainMessages (ruleSet : RuleSet) :
    ((ruleSet.entries.map fun e => (e.1, registry.chainMessages record overrides e.1 e.2)).filter
        fun b => !b.2.isEmpty) = registry.reference record ruleSet overrides := by
  rw [List.filter_map, reference]
  congr 1
  refine List.filter_congr fun e _ => ?_
  rw [Function.comp_apply, isEmpty_chainMessages, Bool.not_not]

theorem nodup_chainMessages (ruleSet : RuleSet) :
    ((ruleSet.entries.map fun e =>
      (e.1, registry.chainMessages record overrides e.1 e.2)).map Prod.fst).Nodup := by
  rw [List.map_map]
  exact ruleSet.nodup

/-- The errors of a pass in which every validator is registered. -/
theorem entries_errors_pass {ruleSet : RuleSet}
    (known : ∀ r ∈ ruleSet.rules, registry.contains r.2.name = true) :
    (registry.pass record ruleSet overrides).errors.entries =
      registry.reference record ruleSet overrides := by
  have nodup := registry.nodup_chainMessages record overrides ruleSet
  rw [Pass.errors, pass, Pass.failures_run registry record overrides known,
    messages_failures_rules, Errors.entries_addAll_spread _ nodup (fun _ _ h => by cases h),
    filter_chainMessages]
  rfl

/-- No field of the reference is without messages. -/
theorem messages_ne_nil_of_mem_reference {ruleSet : RuleSet} {b : String × List String}
    (h : b ∈ registry.reference record ruleSet overrides) : b.2 ≠ [] := by
  rw [← filter_chainMessages, List.mem_filter] at h
  intro hb
  rw [hb] at h
  cases h.2

/-- The reference is empty if no rule fails. -/
theorem reference_eq_nil_iff (ruleSet : RuleSet) :
    registry.reference record ruleSet overrides = [] ↔
      ∀ e ∈ ruleSet.entries, ∀ rule ∈ e.2, registry.fails record e.1 rule = false := by
  rw [reference, List.map_eq_nil_iff, List.filter_eq_nil_iff]
  refine forall₂_congr fun e _ => ?_
  rw [Bool.not_eq_true, List.any_eq_false]
  simp

theorem fails_eq_false_iff {field : String} {rule : Rule}
    (known : registry.contains rule.name = true) :
    registry.fails record field rule = false ↔
      ∃ v, registry.lookup rule.name = some v ∧
        v.validator.check (record.normalized field) rule.args record = true := by
  rw [contains_eq_isSome_lookup, Option.isSome_iff_exists] at known
  obtain ⟨v, hv⟩ := known
  simp [fails, hv]

/-! ## The result -/

section Results

variable {registry record overrides} {ruleSet : RuleSet} {result : Result}

theorem entries_of_evaluate_eq_ok
    (h : registry.evaluate record ruleSet overrides = .ok result) :
    result.errors.entries = registry.reference record ruleSet overrides := by
  have known := (registry.checkRules_eq_ok_iff_rules ruleSet).1 (checkRules_eq_ok h)
  rw [errors_eq_of_evaluate_eq_ok h, entries_errors_pass registry record overrides known]

/-- The messages of a field are those of its chain, if it has any. -/
theorem get_of_evaluate_eq_ok (h : registry.evaluate record ruleSet overrides = .ok result)
    {field : String} {chain : Chain} (mem : (field, chain) ∈ ruleSet.entries) :
    result.errors.get field = registry.chainMessages record overrides field chain := by
  have nodup := registry.nodup_chainMessages record overrides ruleSet
  have hfind := Entries.find?_eq_some_of_mem nodup (List.mem_map_of_mem mem)
  have hentries := entries_of_evaluate_eq_ok h
  rw [← filter_chainMessages] at hentries
  rw [Errors.get, OrderedMap.get?, ← Errors.entries, hentries, Errors.getD_find?_filter _ nodup,
    hfind, Option.getD_some]

end Results

/-- If every rule names a registered validator, evaluating has a result.  Its entries are the
reference, it is valid if every rule passes, and no field in it is empty or occurs twice. -/
theorem evaluate_eq_reference (ruleSet : RuleSet)
    (known : ∀ e ∈ ruleSet.entries, ∀ rule ∈ e.2, registry.contains rule.name = true) :
    ∃ result, registry.evaluate record ruleSet overrides = .ok result ∧
      result.errors.entries = registry.reference record ruleSet overrides ∧
      (result.valid = true ↔ ∀ e ∈ ruleSet.entries, ∀ rule ∈ e.2, ∃ v,
        registry.lookup rule.name = some v ∧
          v.validator.check (record.normalized e.1) rule.args record = true) ∧
      (∀ b ∈ result.errors.entries, b.2 ≠ []) ∧ result.errors.fields.Nodup := by
  have knownRules : ∀ r ∈ ruleSet.rules, registry.contains r.2.name = true := by
    intro r hr
    obtain ⟨e, he, -, hrule⟩ := (mem_rules_iff ruleSet r).1 hr
    exact known e he r.2 hrule
  obtain ⟨result, hresult⟩ := exists_evaluate_eq_ok
    (registry.checkRules_eq_ok_of_contains ruleSet knownRules) record overrides
  have hentries : result.errors.entries = registry.reference record ruleSet overrides := by
    rw [errors_eq_of_evaluate_eq_ok hresult,
      entries_errors_pass registry record overrides knownRules]
  refine ⟨result, hresult, hentries, ?_, ?_, result.errors.byField.nodup⟩
  · have hvalid : result.valid = true ↔ registry.reference record ruleSet overrides = [] := by
      rw [← hentries]
      exact List.isEmpty_iff
    rw [hvalid, reference_eq_nil_iff]
    refine forall₂_congr fun e he => forall₂_congr fun rule hrule => ?_
    exact registry.fails_eq_false_iff record (known e he rule hrule)
  · intro b hb
    rw [hentries] at hb
    exact registry.messages_ne_nil_of_mem_reference record overrides hb

/-- A validator that stands twice in a chain leaves two messages, and a field that passes none. -/
theorem evaluate_eq_reference_repeated :
    let ruleSet : RuleSet := Expressions.parsed
      (.ofList [("name", "required|min:3|min:3"), ("age", "required"), ("nick", "max:3")])
    let record : Record := .ofList [("nick", .text " Jo "), ("name", .text " Jo ")]
    (∀ e ∈ ruleSet.entries, ∀ rule ∈ e.2, Registry.standard.contains rule.name = true) ∧
      ∃ result, Registry.standard.evaluate record ruleSet .empty = .ok result ∧
        result.errors.entries =
          [("name", ["name must be at least 3 characters", "name must be at least 3 characters"]),
            ("age", ["age is required"])] := by
  intro ruleSet record
  have known : ∀ e ∈ ruleSet.entries, ∀ rule ∈ e.2,
      Registry.standard.contains rule.name = true := by decide
  obtain ⟨result, hresult, hentries, -⟩ :=
    Registry.standard.evaluate_eq_reference record .empty ruleSet known
  exact ⟨known, result, hresult, hentries.trans (by decide +kernel)⟩

end Registry

end FormRules
