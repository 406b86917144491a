import FormRules.Proofs.Evaluation.Verdict

/-!
# Where an override acts

An entry of the overrides stands under a key, and the key may be the name of a
field, of a validator, or of both.  A lookup reads two entries: that of the field,
if it is a table, and that of the validator, if it is a text.  So setting an entry
changes a message only where its key is the field or the validator
(`Overrides.Addressed`).

* A table that takes the place of nothing or of a table is read in its own field
  only, and there only for the validators that one of the two tables names.
* A text that takes the place of nothing or of a text is read for its own validator
  only, and not in the fields whose tables name it.

A text in the place of a table, or a table in the place of a text, does both.

The messages of a field stand in the order of its rules that fail, one for each
(`Registry.getElem?_get_of_evaluate_eq_ok`).  So what holds of a lookup holds of a
place among the messages (`Registry.override_acts_where_addressed`).
-/

namespace FormRules

/-! ## Lookups -/

namespace Overrides

/-- Setting an entry under the key may change what is looked up for the validator in the field. -/
structure Addressed (overrides : Overrides) (key : String) (entry : Override)
    (field validator : String) : Prop where
  named : field = key ∨ validator = key
  /-- A table that does not take the place of a text. -/
  table : ∀ new, entry = .inField new → (∀ text, overrides.get? key ≠ some (.everywhere text)) →
    field = key ∧ (new.contains validator = true ∨
      ∃ old, overrides.get? key = some (.inField old) ∧ old.contains validator = true)
  /-- A text that does not take the place of a table. -/
  text : ∀ text, entry = .everywhere text → (∀ old, overrides.get? key ≠ some (.inField old)) →
    validator = key ∧ ∀ own, overrides.get? field = some (.inField own) → own.contains key = false

variable {overrides : Overrides} {key field validator : String} {entry : Override}

theorem get?_insert_of_ne (h : field ≠ key) :
    (overrides.insert key entry).get? field = overrides.get? field := by
  rw [OrderedMap.get?_insert, if_neg fun heq => h heq.symm]

/-- Setting an entry is not noticed by a reader that finds nothing in it, and nothing in what stood
there before. -/
theorem bind_get?_insert {f : Override → Option String} (hnew : f entry = none)
    (hold : ∀ old, overrides.get? key = some old → f old = none) (name : String) :
    ((overrides.insert key entry).get? name).bind f = (overrides.get? name).bind f := by
  by_cases hname : name = key
  · subst hname
    rw [OrderedMap.get?_insert, if_pos rfl, Option.bind_some, hnew]
    cases hget : overrides.get? name with
    | none => rfl
    | some old => exact (hold old hget).symm
  · rw [get?_insert_of_ne hname]

theorem everywhere?_of_no_text (h : ∀ text, overrides.get? key ≠ some (.everywhere text))
    (old : Override) (hold : overrides.get? key = some old) : old.everywhere? = none := by
  cases old with
  | everywhere text => exact absurd hold (h text)
  | inField table => rfl

theorem inField?_of_no_table (h : ∀ old, overrides.get? key ≠ some (.inField old))
    (validator : String) (old : Override) (hold : overrides.get? key = some old) :
    old.inField? validator = none := by
  cases old with
  | everywhere text => rfl
  | inField table => exact absurd hold (h table)

theorem lookup_insert_of_ne (hfield : field ≠ key) (hvalidator : validator ≠ key) :
    lookup (overrides.insert key entry) field validator = overrides.lookup field validator := by
  rw [lookup, lookup, get?_insert_of_ne hfield, get?_insert_of_ne hvalidator]

section Tables

variable (h : ∀ text, overrides.get? key ≠ some (.everywhere text)) {new : OrderedMap String}
include h

theorem lookup_insert_table_of_ne (hfield : field ≠ key) :
    lookup (overrides.insert key (.inField new)) field validator =
      overrides.lookup field validator := by
  rw [lookup, lookup, get?_insert_of_ne hfield, bind_get?_insert rfl (everywhere?_of_no_text h)]

theorem lookup_insert_table_of_not_mem (hnew : new.contains validator = false)
    (hold : ∀ old, overrides.get? key = some (.inField old) → old.contains validator = false) :
    lookup (overrides.insert key (.inField new)) field validator =
      overrides.lookup field validator := by
  have hnone : ∀ old, overrides.get? key = some old → old.inField? validator = none := by
    intro old hget
    cases old with
    | everywhere text => rfl
    | inField table => exact (table.contains_eq_false_iff validator).1 (hold table hget)
  rw [lookup, lookup, bind_get?_insert ((new.contains_eq_false_iff validator).1 hnew) hnone,
    bind_get?_insert rfl (everywhere?_of_no_text h)]

end Tables

section Texts

variable (h : ∀ old, overrides.get? key ≠ some (.inField old)) {text : String}
include h

theorem lookup_insert_text_of_ne (hvalidator : validator ≠ key) :
    lookup (overrides.insert key (.everywhere text)) field validator =
      overrides.lookup field validator := by
  rw [lookup, lookup, bind_get?_insert rfl (inField?_of_no_table h validator),
    get?_insert_of_ne hvalidator]

/-- A table of the field that names the validator comes first. -/
theorem lookup_insert_text_of_own {own : OrderedMap String}
    (hown : overrides.get? field = some (.inField own)) (hcontains : own.contains key = true) :
    lookup (overrides.insert key (.everywhere text)) field key = overrides.lookup field key := by
  obtain ⟨message, hmessage⟩ := Option.isSome_iff_exists.1 hcontains
  have hfirst : (overrides.get? field).bind (Override.inField? key) = some message := by
    rw [hown]
    exact hmessage
  rw [lookup, lookup, bind_get?_insert rfl (inField?_of_no_table h key), hfirst]
  rfl

end Texts

theorem addressed_of_lookup_ne
    (h : lookup (overrides.insert key entry) field validator ≠ overrides.lookup field validator) :
    overrides.Addressed key entry field validator := by
  refine ⟨?_, ?_, ?_⟩
  · by_contra hne
    rw [not_or] at hne
    exact h (lookup_insert_of_ne hne.1 hne.2)
  · rintro new rfl hnone
    constructor
    · by_contra hfield
      exact h (lookup_insert_table_of_ne hnone hfield)
    · by_contra hnames
      simp only [not_or, not_exists, not_and, Bool.not_eq_true] at hnames
      exact h (lookup_insert_table_of_not_mem hnone hnames.1 hnames.2)
  · rintro text rfl hnone
    obtain rfl : validator = key := by
      by_contra hvalidator
      exact h (lookup_insert_text_of_ne hnone hvalidator)
    refine ⟨rfl, fun own hown => ?_⟩
    by_contra hcontains
    rw [Bool.not_eq_false] at hcontains
    exact h (lookup_insert_text_of_own hnone hown hcontains)

end Overrides

/-! ## Messages by place -/

theorem getElem?_filterMap_of_isSome {α β : Type} {f : α → Option β} {l : List α}
    (h : ∀ x ∈ l, (f x).isSome = true) (i : Nat) : (l.filterMap f)[i]? = l[i]?.bind f := by
  induction l generalizing i with
  | nil => rfl
  | cons x rest ih =>
    obtain ⟨y, hy⟩ := Option.isSome_iff_exists.1 (h x List.mem_cons_self)
    rw [List.filterMap_cons_some hy]
    cases i with
    | zero => exact hy.symm
    | succ i => exact ih (fun x hx => h x (List.mem_cons_of_mem _ hx)) i

namespace Registry

/-- The rules of a field that fail, in order. -/
def failing (registry : Registry) (record : Record) (ruleSet : RuleSet) (field : String) :
    List Rule :=
  ((ruleSet.get? field).getD []).filter (registry.fails record field)

variable {registry : Registry} {record : Record} {ruleSet : RuleSet} {overrides : Overrides}
  {result : Result}

theorem get_eq_of_evaluate_eq_ok
    (h : registry.evaluate record ruleSet overrides = .ok result) (field : String) :
    result.errors.get field =
      (registry.failing record ruleSet field).filterMap
        (registry.message? record overrides field) := by
  rw [failing]
  cases hget : ruleSet.get? field with
  | some chain => exact get_of_evaluate_eq_ok h ((ruleSet.mem_entries_iff field chain).2 hget)
  | none =>
    -- A field without rules is no field of the reference.
    have hfields : field ∉ result.errors.fields := by
      rw [OrderedMap.get?_eq_none_iff] at hget
      intro hmem
      have hentries := entries_of_evaluate_eq_ok h
      obtain ⟨b, hb, rfl⟩ := List.mem_map.1 hmem
      rw [← Errors.entries, hentries, reference, List.mem_map] at hb
      obtain ⟨e, he, rfl⟩ := hb
      exact hget (List.mem_map_of_mem (List.mem_filter.1 he).1)
    rw [Errors.get, (OrderedMap.get?_eq_none_iff _ _).2 hfields]
    rfl

theorem isSome_message?_of_mem_failing {field : String} {rule : Rule}
    (h : rule ∈ registry.failing record ruleSet field) :
    (registry.message? record overrides field rule).isSome = true := by
  obtain ⟨m, hm⟩ :=
    registry.exists_message?_of_fails record overrides (List.mem_filter.1 h).2
  rw [hm]
  rfl

/-- The message at a place is that of the rule at the same place among those that fail. -/
theorem getElem?_get_of_evaluate_eq_ok
    (h : registry.evaluate record ruleSet overrides = .ok result) (field : String) (i : Nat) :
    (result.errors.get field)[i]? =
      (registry.failing record ruleSet field)[i]?.bind
        (registry.message? record overrides field) := by
  rw [get_eq_of_evaluate_eq_ok h]
  exact getElem?_filterMap_of_isSome (fun _ => isSome_message?_of_mem_failing) i

theorem length_get_of_evaluate_eq_ok
    (h : registry.evaluate record ruleSet overrides = .ok result) (field : String) :
    (result.errors.get field).length = (registry.failing record ruleSet field).length := by
  rw [get_eq_of_evaluate_eq_ok h, List.length_filterMap_eq_countP, List.countP_eq_length]
  exact fun _ => isSome_message?_of_mem_failing

theorem message?_eq_of_lookup_eq {a b : Overrides} {field : String} {rule : Rule}
    (h : a.lookup field rule.name = b.lookup field rule.name) :
    registry.message? record a field rule = registry.message? record b field rule := by
  simp only [message?, Outcome.resolve, h]

/-- Setting an entry of the overrides changes messages only where it is addressed.  Both results
decide the same, a field has as many messages as it has rules that fail, and where the two messages
at a place differ, the rule that fails there has a validator that the entry addresses in the
field. -/
theorem override_acts_where_addressed (registry : Registry) (record : Record) (ruleSet : RuleSet)
    (overrides : Overrides) (key : String) (entry : Override) {r s : Result}
    (hr : registry.evaluate record ruleSet overrides = .ok r)
    (hs : registry.evaluate record ruleSet (overrides.insert key entry) = .ok s) :
    r.SameVerdict s ∧ ∀ field : String,
      (r.errors.get field).length = (registry.failing record ruleSet field).length ∧
        ∀ i : Nat, (r.errors.get field)[i]? ≠ (s.errors.get field)[i]? →
          ∃ rule : Rule, (registry.failing record ruleSet field)[i]? = some rule ∧
            overrides.Addressed key entry field rule.name := by
  refine ⟨Result.sameVerdict_of_tally_eq ?_, fun field => ⟨?_, fun i hdiffer => ?_⟩⟩
  · rw [tally_of_evaluate_eq_ok hr, tally_of_evaluate_eq_ok hs]
  · exact length_get_of_evaluate_eq_ok hr field
  · rw [getElem?_get_of_evaluate_eq_ok hr, getElem?_get_of_evaluate_eq_ok hs] at hdiffer
    cases hrule : (registry.failing record ruleSet field)[i]? with
    | none =>
      rw [hrule, Option.bind_none, Option.bind_none] at hdiffer
      exact absurd rfl hdiffer
    | some rule =>
      refine ⟨rule, rfl, Overrides.addressed_of_lookup_ne fun hlookup => hdiffer ?_⟩
      rw [hrule, Option.bind_some, Option.bind_some, message?_eq_of_lookup_eq hlookup]

/-- A key that is the name of a field and of a validator, and a field with its own message for the
validator. -/
theorem override_acts_where_addressed_email :
    let ruleSet := Expressions.parsed (.ofList [("email", "required|email"), ("contact", "email")])
    let overrides : Overrides := .ofList [("contact", .inField (.ofList [("email", "Call us")]))]
    let entry : Override := .everywhere "No address"
    ∃ r s, Registry.standard.evaluate .empty ruleSet overrides = .ok r ∧
      Registry.standard.evaluate .empty ruleSet (overrides.insert "email" entry) = .ok s ∧
      r.errors.get "email" = ["email is required", "email must be a valid email address"] ∧
      s.errors.get "email" = ["email is required", "No address"] ∧
      r.errors.get "contact" = ["Call us"] ∧ s.errors.get "contact" = ["Call us"] ∧
      ∃ rule : Rule, (Registry.standard.failing .empty ruleSet "email")[1]? = some rule ∧
        overrides.Addressed "email" entry "email" rule.name := by
  intro ruleSet overrides entry
  have checked : Registry.standard.checkRules ruleSet = .ok () := by
    rw [checkRules_eq_ok_iff]
    decide
  obtain ⟨r, hr⟩ := exists_evaluate_eq_ok checked .empty overrides
  obtain ⟨s, hs⟩ := exists_evaluate_eq_ok checked .empty (overrides.insert "email" entry)
  have hemail : r.errors.get "email" =
      ["email is required", "email must be a valid email address"] := by
    rw [get_eq_of_evaluate_eq_ok hr]
    decide +kernel
  have hemail' : s.errors.get "email" = ["email is required", "No address"] := by
    rw [get_eq_of_evaluate_eq_ok hs]
    decide +kernel
  have hcontact : r.errors.get "contact" = ["Call us"] := by
    rw [get_eq_of_evaluate_eq_ok hr]
    decide +kernel
  have hcontact' : s.errors.get "contact" = ["Call us"] := by
    rw [get_eq_of_evaluate_eq_ok hs]
    decide +kernel
  have hdiffer : (r.errors.get "email")[1]? ≠ (s.errors.get "email")[1]? := by
    rw [hemail, hemail']
    decide
  obtain ⟨-, hplaces⟩ :=
    override_acts_where_addressed Registry.standard .empty ruleSet overrides "email" entry hr hs
  exact ⟨r, s, hr, hs, hemail, hemail', hcontact, hcontact', (hplaces "email").2 1 hdiffer⟩

end Registry

end FormRules
