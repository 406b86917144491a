import FormRules.Proofs.Evaluation.Locality
import FormRules.Proofs.Registry

/-!
# Registering a name again

A record is evaluated before and after a call that registers a validator.

*A rule set that does not use the name* is evaluated to the very same ending,
whether the name was registered before or not (`Registry.AgreeBut.evaluate_eq`).

*A name that is registered again* has an entry before and after, so the same rule
is the first unknown one, if there is one.  If there is none, only the fields
whose chains use the name can have other messages.  All others fail or pass as
before, in the same order and with the same messages
(`Registry.AgreeBut.evaluate`).

With what a registry tells of its history this gives the meaning of a sequence of
calls (`Registry.last_registration_stands`).
-/

namespace FormRules

/-! ## Fields that use a validator -/

/-- Whether a rule of the chain names the validator. -/
def Chain.uses (chain : Chain) (name : String) : Bool := chain.any fun rule => rule.name = name

/-- Whether the chain of a field names the validator. -/
def RuleSet.uses (ruleSet : RuleSet) (field name : String) : Bool :=
  (ruleSet.get? field).any fun chain => Chain.uses chain name

theorem Chain.uses_eq_false_iff (chain : Chain) (name : String) :
    chain.uses name = false ↔ ∀ rule ∈ chain, rule.name ≠ name := by
  simp [uses]

theorem RuleSet.uses_of_mem {ruleSet : RuleSet} {e : String × Chain} (h : e ∈ ruleSet.entries)
    (name : String) : ruleSet.uses e.1 name = Chain.uses e.2 name := by
  rw [uses, (ruleSet.mem_entries_iff e.1 e.2).1 h, Option.any_some]

/-- Two results say the same about every field whose chain does not name the validator. -/
structure Result.SameWithout (ruleSet : RuleSet) (name : String) (r s : Result) : Prop where
  /-- Of those fields the same fail, in the same order and with the same messages. -/
  entries : (r.errors.entries.filter fun b => !ruleSet.uses b.1 name) =
    s.errors.entries.filter fun b => !ruleSet.uses b.1 name
  has : ∀ field, ruleSet.uses field name = false → r.errors.has field = s.errors.has field
  get : ∀ field, ruleSet.uses field name = false → r.errors.get field = s.errors.get field

/-- Two evaluations have the same error, or results that say the same about every field whose chain
does not name the validator. -/
inductive SameEndingWithout (ruleSet : RuleSet) (name : String) :
    Except UnknownValidator Result → Except UnknownValidator Result → Prop where
  | error (e : UnknownValidator) : SameEndingWithout ruleSet name (.error e) (.error e)
  | ok {r s : Result} :
    r.SameWithout ruleSet name s → SameEndingWithout ruleSet name (.ok r) (.ok s)

/-- Entries that are chosen by their keys are looked up as before. -/
theorem Entries.find?_filter {α : Type} {p : String → Bool} {key : String} (h : p key = true)
    (es : List (String × α)) : find? key (es.filter fun e => p e.1) = find? key es := by
  induction es with
  | nil => rfl
  | cons e rest ih =>
    by_cases hkey : e.1 = key
    · rw [List.filter_cons, hkey, if_pos h, find?, find?, if_pos hkey, if_pos hkey]
    · rw [List.filter_cons, find?, if_neg hkey]
      split
      · rw [find?, if_neg hkey, ih]
      · exact ih

/-- It is enough to compare the entries of those fields. -/
theorem Result.SameWithout.of_entries_eq {ruleSet : RuleSet} {name : String} {r s : Result}
    (entries : (r.errors.entries.filter fun b => !ruleSet.uses b.1 name) =
      s.errors.entries.filter fun b => !ruleSet.uses b.1 name) : r.SameWithout ruleSet name s := by
  have hget : ∀ field, ruleSet.uses field name = false →
      r.errors.byField.get? field = s.errors.byField.get? field := by
    intro field hfield
    have hp : (!ruleSet.uses field name) = true := by rw [hfield]; rfl
    have hfind := congrArg (Entries.find? field) entries
    rwa [Entries.find?_filter (p := fun key => !ruleSet.uses key name) hp,
      Entries.find?_filter (p := fun key => !ruleSet.uses key name) hp] at hfind
  refine ⟨entries, fun field hfield => ?_, fun field hfield => ?_⟩
  · rw [Errors.has, Errors.has, OrderedMap.contains, OrderedMap.contains, hget field hfield]
  · rw [Errors.get, Errors.get, hget field hfield]

/-! ## Registries that agree on all names but one -/

/-- A pass looks up only the validators that its rules name. -/
theorem Pass.run_eq_of_lookup_eq {registry other : Registry} (record : Record)
    (overrides : Overrides) {rules : List (String × Rule)}
    (same : ∀ r ∈ rules, registry.lookup r.2.name = other.lookup r.2.name) :
    run registry record overrides rules = run other record overrides rules := by
  induction rules with
  | nil => rfl
  | cons r rest ih =>
    obtain ⟨field, rule⟩ := r
    have hrule : registry.lookup rule.name = other.lookup rule.name :=
      same (field, rule) List.mem_cons_self
    rw [run, run, hrule, ih fun r hr => same r (List.mem_cons_of_mem _ hr)]

namespace Registry

/-- Two registries have the same entry under every name but one. -/
def AgreeBut (name : String) (registry other : Registry) : Prop :=
  ∀ key, key ≠ name → registry.lookup key = other.lookup key

variable {name : String} {registry other : Registry}

theorem agreeBut_put (registry : Registry) (v : Registered) :
    AgreeBut v.name registry (registry.put v) := by
  intro key hkey
  rw [lookup_put, if_neg fun h => hkey h.symm]

/-- A rule set that does not use the name is evaluated to the same ending. -/
theorem AgreeBut.evaluate_eq (agree : AgreeBut name registry other) {ruleSet : RuleSet}
    (unused : ∀ e ∈ ruleSet.entries, Chain.uses e.2 name = false) (record : Record)
    (overrides : Overrides) :
    registry.evaluate record ruleSet overrides = other.evaluate record ruleSet overrides := by
  have same : ∀ r ∈ ruleSet.rules, registry.lookup r.2.name = other.lookup r.2.name := by
    intro r hr
    obtain ⟨e, he, -, hrule⟩ := (mem_rules_iff ruleSet r).1 hr
    exact agree _ ((Chain.uses_eq_false_iff e.2 name).1 (unused e he) r.2 hrule)
  rw [evaluate, evaluate, pass, pass, Pass.run_eq_of_lookup_eq record overrides same]

/-- A chain that does not use the name has the same messages. -/
theorem AgreeBut.chainMessages_eq (agree : AgreeBut name registry other) {chain : Chain}
    (unused : chain.uses name = false) (record : Record) (overrides : Overrides) (field : String) :
    registry.chainMessages record overrides field chain =
      other.chainMessages record overrides field chain := by
  refine Registry.chainMessages_eq (fun rule hrule => ?_) overrides
  rw [outcome?, outcome?, agree _ ((Chain.uses_eq_false_iff chain name).1 unused rule hrule)]

/-- What the reference says about some of the fields is said by their chains alone. -/
theorem filter_reference (registry : Registry) (record : Record) (ruleSet : RuleSet)
    (overrides : Overrides) (p : String → Bool) :
    ((registry.reference record ruleSet overrides).filter fun b => p b.1) =
      ((ruleSet.entries.filter fun e => p e.1).map fun e =>
        (e.1, registry.chainMessages record overrides e.1 e.2)).filter fun b => !b.2.isEmpty := by
  rw [← filter_chainMessages, List.filter_comm, List.filter_map]
  rfl

/-- The references have the same entries for the fields that do not use the name. -/
theorem AgreeBut.filter_reference_eq (agree : AgreeBut name registry other) (record : Record)
    (ruleSet : RuleSet) (overrides : Overrides) :
    ((registry.reference record ruleSet overrides).filter fun b => !ruleSet.uses b.1 name) =
      (other.reference record ruleSet overrides).filter fun b => !ruleSet.uses b.1 name := by
  have hblocks : ∀ e ∈ ruleSet.entries.filter fun e => !ruleSet.uses e.1 name,
      (e.1, registry.chainMessages record overrides e.1 e.2) =
        (e.1, other.chainMessages record overrides e.1 e.2) := by
    intro e he
    obtain ⟨hmem, huses⟩ := List.mem_filter.1 he
    rw [RuleSet.uses_of_mem hmem, Bool.not_eq_true'] at huses
    rw [agree.chainMessages_eq huses]
  rw [filter_reference registry record ruleSet overrides fun key => !ruleSet.uses key name,
    filter_reference other record ruleSet overrides fun key => !ruleSet.uses key name,
    List.map_congr_left hblocks]

/-- With the same names registered, evaluating ends in the same way but for the fields that use the
name. -/
theorem AgreeBut.evaluate (agree : AgreeBut name registry other)
    (same : registry.contains = other.contains) (record : Record) (ruleSet : RuleSet)
    (overrides : Overrides) :
    SameEndingWithout ruleSet name (registry.evaluate record ruleSet overrides)
      (other.evaluate record ruleSet overrides) := by
  rcases evaluate_cases_of_contains_eq same record ruleSet overrides overrides with
    ⟨e, hr, hs⟩ | ⟨r, s, hr, hs⟩
  · rw [hr, hs]
    exact .error e
  · rw [hr, hs]
    refine .ok (.of_entries_eq ?_)
    rw [entries_of_evaluate_eq_ok hr, entries_of_evaluate_eq_ok hs, agree.filter_reference_eq]

theorem contains_put {v : Registered} (h : registry.contains v.name = true) :
    registry.contains = (registry.put v).contains := by
  funext key
  rw [contains_eq_isSome_lookup, contains_eq_isSome_lookup, lookup_put]
  split
  case isTrue hkey =>
    rw [← hkey, ← contains_eq_isSome_lookup, h]
    rfl
  case isFalse => rfl

/-! ## One call more -/

theorem afterCalls_append_singleton (registry : Registry) (calls : List Call) (call : Call) :
    registry.afterCalls (calls ++ [call]) = (registry.afterCalls calls).put call.entry := by
  rw [← afterCall_eq_put]
  exact List.foldl_append

/-- Whatever calls are made, the registry tells of each name what was registered under it last, and
all its views agree.  A name that is registered again makes a difference only to the fields whose
chains use it, and to a rule set without it no call makes a difference. -/
theorem last_registration_stands (base : Base) (calls : List Call) :
    (base.registry.afterCalls calls).Tells (base.entries ++ calls.map Call.entry) ∧
      (∀ call record ruleSet overrides,
        (base.registry.afterCalls calls).contains call.entry.name = true →
          SameEndingWithout ruleSet call.entry.name
            ((base.registry.afterCalls calls).evaluate record ruleSet overrides)
            ((base.registry.afterCalls (calls ++ [call])).evaluate record ruleSet overrides)) ∧
      ∀ call record (ruleSet : RuleSet) overrides,
        (∀ e ∈ ruleSet.entries, Chain.uses e.2 call.entry.name = false) →
          (base.registry.afterCalls calls).evaluate record ruleSet overrides =
            (base.registry.afterCalls (calls ++ [call])).evaluate record ruleSet overrides := by
  refine ⟨?_, ?_, ?_⟩
  · rw [afterCalls_eq_putAll]
    exact tells_putAll _
  · intro call record ruleSet overrides registered
    rw [afterCalls_append_singleton]
    exact (agreeBut_put _ call.entry).evaluate (contains_put registered) record ruleSet overrides
  · intro call record ruleSet overrides unused
    rw [afterCalls_append_singleton]
    exact (agreeBut_put _ call.entry).evaluate_eq unused record overrides

/-- A validator of the application is registered twice and then one of the built-in validators is
registered again, so that it lets everything pass. -/
theorem last_registration_stands_required :
    let base : Base := .builtins .builtin
    let calls : List Call := [.check "slug" "no :field" fun _ _ _ => false,
      .validator "slug" Builtin.min ":field needs :min"]
    let call : Call := .check "required" "never" fun _ _ _ => true
    let before := base.registry.afterCalls calls
    let after := base.registry.afterCalls (calls ++ [call])
    let ruleSet := Expressions.parsed (.ofList [("name", "required|slug:3"), ("age", "slug:2")])
    let short := Expressions.parsed (.ofList [("age", "slug:2")])
    before.contains "required" = true ∧ after.lookup "required" = some call.entry ∧
      (∃ r s, before.evaluate .empty ruleSet .empty = .ok r ∧
        after.evaluate .empty ruleSet .empty = .ok s ∧
        r.errors.entries =
          [("name", ["name is required", "name needs 3"]), ("age", ["age needs 2"])] ∧
        s.errors.entries = [("name", ["name needs 3"]), ("age", ["age needs 2"])] ∧
        r.SameWithout ruleSet "required" s) ∧
      (∀ e ∈ short.entries, Chain.uses e.2 "required" = false) ∧
      before.evaluate .empty short .empty = after.evaluate .empty short .empty := by
  intro base calls call before after ruleSet short
  have registered : before.contains "required" = true := by decide
  have unused : ∀ e ∈ short.entries, Chain.uses e.2 "required" = false := by decide
  have checked : before.checkRules ruleSet = .ok () := by
    rw [checkRules_eq_ok_iff]
    decide
  have checkedAfter : after.checkRules ruleSet = .ok () := by
    rw [checkRules_eq_ok_iff]
    decide
  obtain ⟨r, hr⟩ := exists_evaluate_eq_ok checked .empty .empty
  obtain ⟨s, hs⟩ := exists_evaluate_eq_ok checkedAfter .empty .empty
  obtain ⟨-, again, without⟩ := last_registration_stands base calls
  obtain ⟨tells, -⟩ := last_registration_stands base (calls ++ [call])
  have last : Latest (base.entries ++ (calls ++ [call]).map Call.entry) call.entry :=
    ⟨base.entries ++ calls.map Call.entry, [], by simp, by simp⟩
  have same := again call .empty ruleSet .empty registered
  rw [hr, hs] at same
  cases same with
  | ok same =>
    refine ⟨registered, (tells.lookup_eq_some_iff "required" call.entry).2 ⟨rfl, last⟩,
      ⟨r, s, hr, hs, ?_, ?_, same⟩, unused, without call .empty short .empty unused⟩
    · rw [entries_of_evaluate_eq_ok hr]
      decide +kernel
    · rw [entries_of_evaluate_eq_ok hs]
      decide +kernel

end Registry

end FormRules
