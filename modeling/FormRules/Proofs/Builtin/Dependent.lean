import FormRules.Proofs.Builtin
import FormRules.Rule.Chain
import Mathlib.Data.List.Find

/-!
# What built-in validators see of a record

Six of the built-in validators see nothing of the record.  The other two see
little of it.

* `required_if` looks up the fields of its conditions, which stand at the even
  positions of the arguments (`Builtin.exists_getElem?_of_mem_conditions`).  A
  field at the end without a value is one of them.
* `required_with` looks at whether a field is blank, and takes an absent field for
  a blank one.

Records that are alike in this (`Rule.SeesAlike`) are not told apart by the rule,
neither by its check nor by what its message may show (`Validator.SameOn`).
-/

namespace FormRules

/-- A validator gives the same on two records. -/
structure Validator.SameOn (v : Validator) (args : List String) (a b : Record) : Prop where
  check : ∀ value, v.check value args a = v.check value args b
  placeholders : v.placeholders args a = v.placeholders args b

/-- Two records are alike for a rule that names a built-in validator.  What `required_if` looks up
has to be one value: the two zeros compare as equal, and the literal `-0` tells them apart. -/
structure Rule.SeesAlike (rule : Rule) (a b : Record) : Prop where
  deciding : rule.name = "required_if" →
    ∀ i key, rule.args[2 * i]? = some key → a.get? key = b.get? key
  present : rule.name = "required_with" →
    ∀ key ∈ rule.args, (a.get? key).all Value.isBlank = (b.get? key).all Value.isBlank

namespace Builtin

variable {args : List String} {a b : Record}

/-! ## `required_if` -/

/-- A condition is made of the arguments at an even position and behind it. -/
theorem getElem?_conditions (args : List String) (i : Nat) :
    (conditions args)[i]? = args[2 * i]?.map fun field => (field, args[2 * i + 1]?) := by
  fun_induction conditions args generalizing i with
  | case1 => rfl
  | case2 field =>
    cases i with
    | zero => rfl
    | succ i => rfl
  | case3 field value rest ih =>
    cases i with
    | zero => rfl
    | succ i => exact ih i

theorem exists_getElem?_of_mem_conditions {c : Condition} (h : c ∈ conditions args) :
    ∃ i, args[2 * i]? = some c.1 := by
  obtain ⟨i, hi⟩ := List.getElem?_of_mem h
  rw [getElem?_conditions, Option.map_eq_some_iff] at hi
  obtain ⟨field, hfield, rfl⟩ := hi
  exact ⟨i, hfield⟩

theorem deciding_mem_conditions {c : Condition} (h : deciding args a = some c) :
    c ∈ conditions args :=
  List.mem_reverse.1 (List.mem_of_find?_eq_some h)

theorem deciding_eq (same : ∀ c ∈ conditions args, a.get? c.1 = b.get? c.1) :
    deciding args a = deciding args b := by
  refine List.find?_congr fun c hc => ?_
  rw [OrderedMap.contains, OrderedMap.contains, same c (List.mem_reverse.1 hc)]

theorem sameOn_requiredIf (same : ∀ i key, args[2 * i]? = some key → a.get? key = b.get? key) :
    requiredIf.SameOn args a b := by
  have hconditions : ∀ c ∈ conditions args, a.get? c.1 = b.get? c.1 := by
    intro c hc
    obtain ⟨i, hi⟩ := exists_getElem?_of_mem_conditions hc
    exact same i c.1 hi
  have hdeciding : deciding args a = deciding args b := deciding_eq hconditions
  have hholds : (deciding args a).any (holdsIn a) = (deciding args b).any (holdsIn b) := by
    rw [← hdeciding]
    cases hd : deciding args a with
    | none => rfl
    | some c =>
      -- The condition that decides is one of those whose fields are the same in both records.
      have hget := hconditions c (deciding_mem_conditions hd)
      rw [Option.any_some, Option.any_some, holdsIn, holdsIn, hget]
  constructor
  · intro value
    simp only [requiredIf, hholds]
  · simp only [requiredIf, hdeciding]

/-! ## `required_with` -/

theorem isPresent_eq (record : Record) (field : String) :
    isPresent record field = !(record.get? field).all Value.isBlank := by
  rw [isPresent]
  cases record.get? field <;> rfl

theorem sameOn_requiredWith
    (same : ∀ key ∈ args, (a.get? key).all Value.isBlank = (b.get? key).all Value.isBlank) :
    requiredWith.SameOn args a b := by
  have hpresent : args.any (isPresent a) = args.any (isPresent b) := by
    rw [Bool.eq_iff_iff, List.any_eq_true, List.any_eq_true]
    refine exists_congr fun key => and_congr_right fun hkey => ?_
    rw [isPresent_eq, isPresent_eq, same key hkey]
  refine ⟨fun value => ?_, rfl⟩
  simp only [requiredWith, hpresent]

/-! ## All of them -/

/-- A built-in validator does not see the record, or it is one of two. -/
theorem cases_of_mem_all {name : String} {v : Validator} (h : (name, v) ∈ all) :
    (∀ args a b, v.SameOn args a b) ∨ (name = "required_if" ∧ v = requiredIf) ∨
      (name = "required_with" ∧ v = requiredWith) := by
  simp only [all, List.mem_cons, Prod.mk.injEq, List.not_mem_nil, or_false] at h
  rcases h with ⟨-, rfl⟩ | ⟨-, rfl⟩ | ⟨-, rfl⟩ | ⟨-, rfl⟩ | ⟨-, rfl⟩ | ⟨-, rfl⟩ | h | h
  iterate 6 exact .inl fun _ _ _ => ⟨fun _ => rfl, rfl⟩
  · exact .inr (.inl h)
  · exact .inr (.inr h)

theorem sameOn_of_mem_all {rule : Rule} {v : Validator} (h : (rule.name, v) ∈ all)
    (alike : rule.SeesAlike a b) : v.SameOn rule.args a b := by
  rcases cases_of_mem_all h with hsame | ⟨hname, rfl⟩ | ⟨hname, rfl⟩
  · exact hsame rule.args a b
  · exact sameOn_requiredIf (alike.deciding hname)
  · exact sameOn_requiredWith (alike.present hname)

end Builtin

end FormRules
