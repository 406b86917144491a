import FormRules.Proofs.Builtin
import FormRules.Proofs.Evaluation.Reference

/-!
# Messages have no say in a verdict

What a pass decides and what it says are two things.  A rule fails or not by the
check that its name stands for (`Registry.fails`), and a failure leaves one
message, whatever the message is.  An empty message counts, and so does one that
was there before.

So the *tally* of a result, its fields with the number of their messages, can be
told without messages: it lists the fields with a rule that fails, each with the
number of such rules (`Registry.tally_of_evaluate_eq_ok`).  Two registries that
give the same checks to the same names have the same tally, and evaluating with
them ends in the same way (`Registry.SameChecks.evaluate`), with any overrides
and any templates.
-/

namespace FormRules

/-! ## Endings -/

/-- Two results decide the same: the same fields fail, in the same order and each with as many
messages. -/
structure Result.SameVerdict (r s : Result) : Prop where
  valid : r.valid = s.valid
  fields : r.errors.fields = s.errors.fields
  counts : ∀ field, (r.errors.get field).length = (s.errors.get field).length

/-- Two evaluations end in the same way. -/
inductive SameEnding : Except UnknownValidator Result → Except UnknownValidator Result → Prop where
  /-- Both have the same error. -/
  | error (e : UnknownValidator) : SameEnding (.error e) (.error e)
  /-- Both have a result, and the results decide the same. -/
  | ok {r s : Result} : r.SameVerdict s → SameEnding (.ok r) (.ok s)

/-! ## Tallies -/

/-- The fields with messages, each with the number of its messages. -/
def Errors.tally (e : Errors) : List (String × Nat) := e.entries.map fun b => (b.1, b.2.length)

theorem Errors.fields_eq_map_tally (e : Errors) : e.fields = e.tally.map Prod.fst := by
  rw [tally, List.map_map]
  rfl

theorem Errors.isEmpty_eq_isEmpty_tally (e : Errors) : e.isEmpty = e.tally.isEmpty := by
  rw [tally, List.isEmpty_map]
  rfl

/-- With messages for some field, a result is not valid. -/
theorem Result.valid_of_has {r : Result} {field : String} (h : r.errors.has field = true) :
    r.valid = false := by
  rw [Errors.has, OrderedMap.contains_iff] at h
  rw [valid, Errors.isEmpty_eq_isEmpty_fields, List.isEmpty_eq_false_iff]
  exact List.ne_nil_of_mem h

theorem Errors.length_get (e : Errors) (field : String) :
    (e.get field).length = (Entries.find? field e.tally).getD 0 := by
  rw [tally, Entries.find?_map, get, OrderedMap.get?, entries]
  cases Entries.find? field e.byField.entries <;> rfl

theorem Result.sameVerdict_of_tally_eq {r s : Result} (h : r.errors.tally = s.errors.tally) :
    r.SameVerdict s where
  valid := by
    rw [valid, valid, Errors.isEmpty_eq_isEmpty_tally, Errors.isEmpty_eq_isEmpty_tally, h]
  fields := by rw [Errors.fields_eq_map_tally, Errors.fields_eq_map_tally, h]
  counts field := by rw [Errors.length_get, Errors.length_get, h]

namespace Registry

/-- The fields with a rule that fails, each with the number of such rules. -/
def tally (registry : Registry) (record : Record) (ruleSet : RuleSet) : List (String × Nat) :=
  (ruleSet.entries.filter fun e => e.2.any (registry.fails record e.1)).map fun e =>
    (e.1, e.2.countP (registry.fails record e.1))

/-- The tally of a result does not depend on messages. -/
theorem tally_of_evaluate_eq_ok {registry : Registry} {record : Record} {overrides : Overrides}
    {ruleSet : RuleSet} {result : Result}
    (h : registry.evaluate record ruleSet overrides = .ok result) :
    result.errors.tally = registry.tally record ruleSet := by
  rw [Errors.tally, entries_of_evaluate_eq_ok h, reference, List.map_map, tally]
  refine List.map_congr_left fun e _ => ?_
  rw [Function.comp_apply, length_chainMessages]

/-! ## Fields that fail -/

section Fields

variable {registry : Registry} {record : Record} {overrides : Overrides} {ruleSet : RuleSet}
  {result : Result}

/-- The fields of a result are those with a rule that fails. -/
theorem fields_of_evaluate_eq_ok
    (h : registry.evaluate record ruleSet overrides = .ok result) :
    result.errors.fields =
      (ruleSet.entries.filter fun e => e.2.any (registry.fails record e.1)).map Prod.fst := by
  rw [Errors.fields_eq_map_tally, tally_of_evaluate_eq_ok h, tally, List.map_map]
  rfl

theorem has_of_evaluate_eq_ok (h : registry.evaluate record ruleSet overrides = .ok result)
    {field : String} {chain : Chain} (mem : (field, chain) ∈ ruleSet.entries)
    (fails : chain.any (registry.fails record field) = true) : result.errors.has field = true := by
  rw [Errors.has, OrderedMap.contains_iff, ← Errors.fields, fields_of_evaluate_eq_ok h]
  exact List.mem_map_of_mem (List.mem_filter.2 ⟨mem, fails⟩)

end Fields

/-! ## Registries with the same checks -/

/-- The check that a name stands for. -/
def check? (registry : Registry) (name : String) :
    Option (Value → List String → Record → Bool) :=
  (registry.lookup name).map fun v => v.validator.check

/-- Every name stands for the same check in both registries.  Templates and what messages may show
can differ. -/
def SameChecks (r s : Registry) : Prop := ∀ name, r.check? name = s.check? name

theorem contains_eq_isSome_check? (registry : Registry) (name : String) :
    registry.contains name = (registry.check? name).isSome := by
  rw [contains_eq_isSome_lookup, check?, Option.isSome_map]

theorem fails_eq_any_check? (registry : Registry) (record : Record) (field : String)
    (rule : Rule) :
    registry.fails record field rule =
      (registry.check? rule.name).any fun check =>
        !check (record.normalized field) rule.args record := by
  rw [fails, check?]
  cases registry.lookup rule.name <;> rfl

variable {registry other : Registry}

theorem SameChecks.contains_eq (same : registry.SameChecks other) :
    registry.contains = other.contains := by
  funext name
  rw [contains_eq_isSome_check?, contains_eq_isSome_check?, same name]

theorem SameChecks.fails_eq (same : registry.SameChecks other) :
    registry.fails = other.fails := by
  funext record field rule
  rw [fails_eq_any_check?, fails_eq_any_check?, same rule.name]

/-- Evaluating with the same checks ends in the same way, whatever the overrides are. -/
theorem SameChecks.evaluate (same : registry.SameChecks other) (record : Record)
    (ruleSet : RuleSet) (overrides otherOverrides : Overrides) :
    SameEnding (registry.evaluate record ruleSet overrides)
      (other.evaluate record ruleSet otherOverrides) := by
  rcases evaluate_cases_of_contains_eq same.contains_eq record ruleSet overrides otherOverrides with
    ⟨e, hr, hs⟩ | ⟨r, s, hr, hs⟩
  · rw [hr, hs]
    exact .error e
  · rw [hr, hs]
    refine .ok (Result.sameVerdict_of_tally_eq ?_)
    rw [tally_of_evaluate_eq_ok hr, tally_of_evaluate_eq_ok hs, tally, tally, same.fails_eq]

/-- The catalog has no part in the checks of the built-in validators. -/
theorem sameChecks_withBuiltins (catalog otherCatalog : Catalog) :
    (withBuiltins catalog).SameChecks (withBuiltins otherCatalog) := by
  intro name
  rw [check?, check?, lookup_withBuiltins, lookup_withBuiltins, Option.map_map, Option.map_map]
  rfl

end Registry

end FormRules
