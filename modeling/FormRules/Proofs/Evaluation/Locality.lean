import FormRules.Proofs.Builtin.Dependent
import FormRules.Proofs.Evaluation.Reference

/-!
# What the messages of a field depend on

The messages of a field come from its own chain (`Registry.get_of_evaluate_eq_ok`), and
the rules of a chain see the record only through the outcomes of their validators
(`Registry.outcome?`).  With the built-in validators these depend on little: on
the normalized value of the field, on the entries that a `required_if` of the
chain looks up, and on which fields of a `required_with` are blank.

Records that are alike in this give the field the same messages, whatever else
they hold and in whatever order (`messages_of_field_local`).
-/

namespace FormRules

/-- Two records are alike for a field with a chain of built-in validators. -/
structure Chain.SeesAlike (chain : Chain) (field : String) (a b : Record) : Prop where
  value : a.normalized field = b.normalized field
  rules : ∀ rule ∈ chain, rule.SeesAlike a b

/-- A rule of the chain looks up a key in the record, apart from the value of its own field. -/
def Chain.Consults (chain : Chain) (key : String) : Prop :=
  ∃ rule ∈ chain, (rule.name = "required_if" ∧ ∃ i, rule.args[2 * i]? = some key) ∨
    (rule.name = "required_with" ∧ key ∈ rule.args)

/-- Records with the same entries for a field and for all keys that its chain looks up are alike.
Their other entries do not matter, and neither does the order. -/
theorem Chain.seesAlike_of_mem_entries_iff {chain : Chain} {field : String} {a b : Record}
    (same : ∀ key, key = field ∨ chain.Consults key →
      ∀ value, (key, value) ∈ a.entries ↔ (key, value) ∈ b.entries) :
    chain.SeesAlike field a b := by
  have hget : ∀ key, key = field ∨ chain.Consults key → a.get? key = b.get? key := by
    intro key hkey
    refine Option.ext fun value => ?_
    rw [← a.mem_entries_iff, ← b.mem_entries_iff]
    exact same key hkey value
  refine ⟨?_, fun rule hrule => ⟨?_, ?_⟩⟩
  · rw [Record.normalized, Record.normalized, hget field (.inl rfl)]
  · intro hname i key hkey
    exact hget key (.inr ⟨rule, hrule, .inl ⟨hname, i, hkey⟩⟩)
  · intro hname key hkey
    rw [hget key (.inr ⟨rule, hrule, .inr ⟨hname, hkey⟩⟩)]

namespace Registry

/-! ## Outcomes -/

/-- The outcome of a rule of a field, if its validator is registered. -/
def outcome? (registry : Registry) (record : Record) (field : String) (rule : Rule) :
    Option Outcome :=
  (registry.lookup rule.name).map fun v => v.run (record.normalized field) rule.args record

variable {registry : Registry} {field : String} {chain : Chain} {a b : Record}

theorem fails_eq_any_outcome? (registry : Registry) (record : Record) (field : String)
    (rule : Rule) :
    registry.fails record field rule =
      (registry.outcome? record field rule).any fun o => !o.passed := by
  rw [fails, outcome?]
  cases registry.lookup rule.name <;> rfl

theorem message?_eq_map_outcome? (registry : Registry) (record : Record) (overrides : Overrides)
    (field : String) (rule : Rule) :
    registry.message? record overrides field rule =
      (registry.outcome? record field rule).map fun o => o.resolve field rule.name overrides := by
  rw [message?, outcome?, Option.map_map]
  rfl

/-- The messages of a chain depend on the registry and the record through the outcomes of its
rules. -/
theorem chainMessages_eq {other : Registry} (same : ∀ rule ∈ chain,
      registry.outcome? a field rule = other.outcome? b field rule) (overrides : Overrides) :
    registry.chainMessages a overrides field chain =
      other.chainMessages b overrides field chain := by
  have hfails : chain.filter (registry.fails a field) = chain.filter (other.fails b field) := by
    refine List.filter_congr fun rule hrule => ?_
    rw [fails_eq_any_outcome?, fails_eq_any_outcome?, same rule hrule]
  rw [chainMessages, chainMessages, hfails]
  refine List.filterMap_congr fun rule hrule => ?_
  rw [message?_eq_map_outcome?, message?_eq_map_outcome?,
    same rule (List.mem_filter.1 hrule).1]

theorem outcome?_withBuiltins_eq (catalog : Catalog) {rule : Rule} (alike : rule.SeesAlike a b)
    (value : a.normalized field = b.normalized field) :
    (withBuiltins catalog).outcome? a field rule =
      (withBuiltins catalog).outcome? b field rule := by
  rw [outcome?, outcome?, lookup_withBuiltins, Option.map_map, Option.map_map]
  cases hfind : Entries.find? rule.name Builtin.all with
  | none => rfl
  | some v =>
    have same := Builtin.sameOn_of_mem_all (Entries.mem_of_find?_eq_some hfind) alike
    simp only [Option.map_some, Function.comp_apply, Registered.run, value, same.check,
      same.placeholders]

/-! ## Results -/

/-- Evaluating either of two records has a result, and a field has the same messages in both. -/
def SameMessages (registry : Registry) (ruleSet : RuleSet) (overrides : Overrides) (field : String)
    (a b : Record) : Prop :=
  ∃ r s, registry.evaluate a ruleSet overrides = .ok r ∧
    registry.evaluate b ruleSet overrides = .ok s ∧ r.errors.get field = s.errors.get field

theorem contains_withBuiltins (catalog : Catalog) (name : String) :
    (withBuiltins catalog).contains name = true ↔ name ∈ Builtin.all.map Prod.fst := by
  rw [contains_eq_isSome_lookup, lookup_withBuiltins, Option.isSome_map, Option.isSome_iff_ne_none,
    ne_eq, Entries.find?_eq_none_iff, not_not]

theorem sameMessages_of_seesAlike (catalog : Catalog) (overrides : Overrides) {ruleSet : RuleSet}
    (builtin : ∀ e ∈ ruleSet.entries, ∀ rule ∈ e.2, rule.name ∈ Builtin.all.map Prod.fst)
    (mem : (field, chain) ∈ ruleSet.entries) (alike : chain.SeesAlike field a b) :
    (withBuiltins catalog).SameMessages ruleSet overrides field a b := by
  have checked : (withBuiltins catalog).checkRules ruleSet = .ok () := by
    refine (checkRules_eq_ok_iff _ _).2 fun e he rule hrule => ?_
    exact (contains_withBuiltins catalog rule.name).2 (builtin e he rule hrule)
  obtain ⟨r, hr⟩ := exists_evaluate_eq_ok checked a overrides
  obtain ⟨s, hs⟩ := exists_evaluate_eq_ok checked b overrides
  refine ⟨r, s, hr, hs, ?_⟩
  -- Both lists of messages are those of the chain, whatever the other fields have.
  rw [get_of_evaluate_eq_ok hr mem, get_of_evaluate_eq_ok hs mem]
  refine chainMessages_eq (fun rule hrule => ?_) overrides
  exact outcome?_withBuiltins_eq catalog (alike.rules rule hrule) alike.value

/-- With built-in validators only, a field has the same messages on records that are alike for its
chain.  In particular it has on records with the same entries for the field and for the keys that
its chain looks up. -/
theorem messages_of_field_local (catalog : Catalog) (overrides : Overrides) {ruleSet : RuleSet}
    (builtin : ∀ e ∈ ruleSet.entries, ∀ rule ∈ e.2, rule.name ∈ Builtin.all.map Prod.fst)
    {field : String} {chain : Chain} (mem : (field, chain) ∈ ruleSet.entries) :
    (∀ a b, chain.SeesAlike field a b →
      (withBuiltins catalog).SameMessages ruleSet overrides field a b) ∧
    ∀ a b : Record, (∀ key, key = field ∨ chain.Consults key →
        ∀ value, (key, value) ∈ a.entries ↔ (key, value) ∈ b.entries) →
      (withBuiltins catalog).SameMessages ruleSet overrides field a b := by
  have alike : ∀ a b, chain.SeesAlike field a b →
      (withBuiltins catalog).SameMessages ruleSet overrides field a b :=
    fun a b => sameMessages_of_seesAlike catalog overrides builtin mem
  exact ⟨alike, fun a b same => alike a b (Chain.seesAlike_of_mem_entries_iff same)⟩

/-- A field that is blank in one record and absent in the other, under a pair whose literal is a
field as well, a field without a value at the end, and other fields in another order. -/
theorem messages_of_field_local_absent :
    let ruleSet : RuleSet := Expressions.parsed (.ofList
      [("age", "required"), ("name", "required_if:kind,firm,role|required_with:mail,fax|max:3")])
    let chain : Chain := [⟨"required_if", ["kind", "firm", "role"]⟩,
      ⟨"required_with", ["mail", "fax"]⟩, ⟨"max", ["3"]⟩]
    let a : Record := .ofList
      [("name", .text "  "), ("kind", .text "firm"), ("firm", .text "x"), ("mail", .text "m")]
    let b : Record := .ofList
      [("mail", .number .zero), ("fax", .text " "), ("age", .text "3"), ("kind", .text "firm")]
    (∀ e ∈ ruleSet.entries, ∀ rule ∈ e.2, rule.name ∈ Builtin.all.map Prod.fst) ∧
      ("name", chain) ∈ ruleSet.entries ∧ chain.SeesAlike "name" a b ∧
      Registry.standard.SameMessages ruleSet .empty "name" a b := by
  intro ruleSet chain a b
  have builtin : ∀ e ∈ ruleSet.entries, ∀ rule ∈ e.2, rule.name ∈ Builtin.all.map Prod.fst := by
    decide
  have mem : ("name", chain) ∈ ruleSet.entries := by decide
  have alike : chain.SeesAlike "name" a b := by
    refine ⟨by decide, fun rule hrule => ?_⟩
    simp only [chain, List.mem_cons, List.not_mem_nil, or_false] at hrule
    rcases hrule with rfl | rfl | rfl
    · refine ⟨fun _ i key hkey => ?_, nofun⟩
      -- The arguments have two even positions, at `kind` and at `role`.
      rcases i with _ | _ | i
      · cases hkey; decide
      · cases hkey; decide
      · cases hkey
    · exact ⟨nofun, fun _ => by decide⟩
    · exact ⟨nofun, nofun⟩
  exact ⟨builtin, mem, alike, (messages_of_field_local .builtin .empty builtin mem).1 a b alike⟩

end Registry

end FormRules
