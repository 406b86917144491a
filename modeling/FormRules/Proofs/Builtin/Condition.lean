import FormRules.Evaluation.Message
import FormRules.Proofs.Builtin.Dependent
import FormRules.Proofs.Template

/-!
# The condition that decides

`required_if` looks for its deciding condition from the back.  There are two other
ways to say which one that is.

*From the left* (`requiredFromLeft`).  The arguments are gone through two by two,
and every pair whose field is in the record settles anew whether the field is
required.  So a later pair takes back what an earlier one has settled.  The search
from the back stops at the pair that settles last
(`requiredFromLeft_eq_deciding`).

*By place* (`Decides`).  The condition stands at the last even position whose field
is in the record.  The check and the message look for it one after the other and
find the same, so the message of a failure tells a condition that does hold in the
record (`requiredIf_message_tells_condition`).
-/

namespace FormRules.Builtin

variable {args : List String} {record : Record}

/-! ## From the left -/

/-- Whether a field is required after pairs of arguments, when it was or was not before them.  A
pair counts if its field is in the record, even if it holds nothing, and then asks whether the field
has the value of the pair.  A field at the end has no value to ask for. -/
def requiredFromLeft (record : Record) : Bool → List String → Bool
  | required, [] => required
  | required, [field] => if record.contains field then false else required
  | required, field :: expected :: rest =>
    requiredFromLeft record
      (if record.contains field then (record.get? field).any (Value.matchesLiteral expected)
        else required)
      rest

theorem deciding_cons_cons (field expected : String) (rest : List String) (record : Record) :
    deciding (field :: expected :: rest) record =
      (deciding rest record).or
        (if record.contains field then some (field, some expected) else none) := by
  rw [deciding, conditions, List.reverse_cons, List.find?_append, ← deciding, List.find?_singleton]

theorem holdsIn_some (record : Record) (field expected : String) :
    holdsIn record (field, some expected) =
      (record.get? field).any (Value.matchesLiteral expected) := by
  cases h : record.get? field <;> simp [holdsIn, h]

theorem holdsIn_none (record : Record) (field : String) : holdsIn record (field, none) = false := by
  simp [holdsIn]

/-- The deciding condition has the last word.  Without one, nothing changes. -/
theorem requiredFromLeft_eq_deciding (record : Record) (required : Bool) (args : List String) :
    requiredFromLeft record required args =
      ((deciding args record).map (holdsIn record)).getD required := by
  fun_induction requiredFromLeft record required args with
  | case1 required => rfl
  | case2 required field h =>
    simp [deciding, conditions, h, holdsIn_none]
  | case3 required field h =>
    simp [deciding, conditions, h]
  | case4 required field expected rest ih =>
    rw [ih, deciding_cons_cons]
    cases hrest : deciding rest record with
    | some c => rfl
    | none => split <;> simp [holdsIn_some]

/-- A value passes `required_if` if going through the arguments from the left leaves it not
required, or if it passes `required`. -/
theorem requiredIf_passes_iff_from_left (value : Value) (args : List String) (record : Record) :
    requiredIf.check value args record = true ↔
      requiredFromLeft record false args = false ∨ required.check value [] record = true := by
  have hdecides : requiredFromLeft record false args =
      (deciding args record).any (holdsIn record) := by
    rw [requiredFromLeft_eq_deciding]
    cases deciding args record <;> rfl
  rw [hdecides]
  simp only [requiredIf, required, Bool.or_eq_true, Bool.not_eq_true']

/-- A field at the end takes back what an earlier pair has settled, also if it holds nothing. -/
example : requiredFromLeft (.ofList [("a", .text "1"), ("b", .missing)]) false ["a", "1", "b"] =
    false := by decide

/-! ## By place -/

/-- The field at the last even position that is in the record, and the value behind it, which the
record has for the field. -/
structure Decides (args : List String) (record : Record) (i : Nat) (other expected : String) :
    Prop where
  field_at : args[2 * i]? = some other
  value_at : args[2 * i + 1]? = some expected
  holds : ∃ value, record.get? other = some value ∧ value.matchesLiteral expected = true
  last : ∀ j, i < j → ∀ key, args[2 * j]? = some key → record.contains key = false

/-- The deciding condition stands at an even position, and no field at a later one is in the
record. -/
theorem exists_place_of_deciding {c : Condition} (h : deciding args record = some c) :
    ∃ i, args[2 * i]? = some c.1 ∧ args[2 * i + 1]? = c.2 ∧
      ∀ j, i < j → ∀ key, args[2 * j]? = some key → record.contains key = false := by
  obtain ⟨-, later, earlier, hsplit, passed⟩ := List.find?_eq_some_iff_append.1 h
  have hconditions : conditions args = earlier.reverse ++ c :: later.reverse := by
    rw [← List.reverse_reverse (conditions args), hsplit, List.reverse_append, List.reverse_cons,
      List.append_assoc, List.singleton_append]
  have hplace : (conditions args)[earlier.reverse.length]? = some c := by
    rw [hconditions, List.getElem?_append_right (Nat.le_refl _), Nat.sub_self]
    rfl
  rw [getElem?_conditions, Option.map_eq_some_iff] at hplace
  obtain ⟨other, hother, rfl⟩ := hplace
  refine ⟨_, hother, rfl, fun j hj key hkey => ?_⟩
  -- A condition behind the deciding one comes before it in the search, which passed it over.
  have hmem : (key, args[2 * j + 1]?) ∈ later := by
    obtain ⟨k, rfl⟩ := Nat.exists_eq_add_of_lt hj
    have hcondition := getElem?_conditions args (earlier.reverse.length + k + 1)
    rw [hkey, hconditions, Nat.add_assoc, List.getElem?_append_right (Nat.le_add_right _ _),
      Nat.add_sub_cancel_left, List.getElem?_cons_succ] at hcondition
    exact List.mem_reverse.1 (List.mem_of_getElem? hcondition)
  have hpassed := passed _ hmem
  rwa [Bool.not_eq_true'] at hpassed

/-- If the check fails, the deciding condition has a value, and the record has that value for its
field. -/
theorem exists_deciding_of_fails {value : Value}
    (fails : requiredIf.check value args record = false) :
    ∃ other expected, deciding args record = some (other, some expected) ∧
      ∃ current, record.get? other = some current ∧ current.matchesLiteral expected = true := by
  have hholds : (deciding args record).any (holdsIn record) = true := by
    simp only [requiredIf, Bool.or_eq_false_iff, Bool.not_eq_false'] at fails
    exact fails.1
  obtain ⟨⟨other, expected?⟩, hdeciding, hholds⟩ := (Option.any_eq_true _ _).1 hholds
  cases expected? with
  | none => rw [holdsIn_none] at hholds; cases hholds
  | some expected =>
    rw [holdsIn_some, Option.any_eq_true] at hholds
    exact ⟨other, expected, hdeciding, hholds⟩

/-! ## The message -/

theorem placeholders_of_deciding {other expected : String}
    (h : deciding args record = some (other, some expected)) :
    requiredIf.placeholders args record = [("other", other), ("value", expected)] := by
  simp only [requiredIf, h]
  rfl

/-- The built-in template of `required_if`, filled.  No token lies over the seam of two of its
parts, so each is filled on its own. -/
theorem fill_requiredIf (field other expected : String) :
    Template.fill (Catalog.builtin.template "required_if")
        [("field", field), ("other", other), ("value", expected)] =
      field ++ " is required when " ++ other ++ " is " ++ expected := by
  generalize hbindings : [("field", field), ("other", other), ("value", expected)] = bindings
  have hfield : Template.fill ":field" bindings = field := by
    subst hbindings
    exact Template.fill_token (by decide) (by decide) ⟨[], "field", _, rfl, rfl, nofun⟩
  have hother : Template.fill ":other" bindings = other := by
    subst hbindings
    exact Template.fill_token (by decide) (by decide)
      ⟨[("field", field)], "other", _, rfl, rfl, by simp⟩
  have hvalue : Template.fill ":value" bindings = expected := by
    subst hbindings
    exact Template.fill_token (by decide) (by decide)
      ⟨[("field", field), ("other", other)], "value", _, rfl, rfl, by simp⟩
  have htemplate : Catalog.builtin.template "required_if" =
      ":field" ++ (" is required when " ++ (":other" ++ (" is " ++ ":value"))) := by decide
  rw [htemplate, Template.fill_append (by decide), Template.fill_append (by decide),
    Template.fill_append (by decide), Template.fill_append (by decide), hfield, hother, hvalue,
    Template.fill_of_not_mem (by decide), Template.fill_of_not_mem (by decide)]
  simp only [String.append_assoc]

/-- If `required_if` fails, its placeholders are a pair of arguments that the record fulfils, and no
field at a later even position is in the record.  With the built-in template and without an
override, the message says that the field is required in this case. -/
theorem requiredIf_message_tells_condition {value : Value} {args : List String} {record : Record}
    (fails : requiredIf.check value args record = false) :
    ∃ i other expected, Decides args record i other expected ∧
      requiredIf.placeholders args record = [("other", other), ("value", expected)] ∧
      ∀ (field : String) (overrides : Overrides), overrides.lookup field "required_if" = none →
        (Registry.standard.lookup "required_if").map (fun entry =>
            (entry.run value args record).resolve field "required_if" overrides) =
          some (field ++ " is required when " ++ other ++ " is " ++ expected) := by
  obtain ⟨other, expected, hdeciding, hholds⟩ := exists_deciding_of_fails fails
  obtain ⟨i, hother, hexpected, last⟩ := exists_place_of_deciding hdeciding
  have hplaceholders := placeholders_of_deciding hdeciding
  refine ⟨i, other, expected, ⟨hother, hexpected, hholds, last⟩, hplaceholders, ?_⟩
  intro field overrides hlookup
  have hentry : Registry.standard.lookup "required_if" =
      some ⟨"required_if", requiredIf, Catalog.builtin.template "required_if"⟩ := by
    rw [Registry.standard, Registry.lookup_withBuiltins]
    rfl
  rw [hentry, Option.map_some, Outcome.resolve, hlookup, Option.getD_none, Outcome.bindings,
    Registered.run, hplaceholders, fill_requiredIf]

/-- An earlier pair that does not hold, a later field that is not in the record, and a deciding
condition whose texts look like tokens. -/
theorem requiredIf_message_tells_condition_tokens :
    let args := ["plan", "free", ":value", ":field", "gone"]
    let record : Record := .ofList [(":value", .text ":field"), ("plan", .text "paid")]
    requiredIf.check (.text "") args record = false ∧
      (∃ i, Decides args record i ":value" ":field") ∧
      requiredIf.placeholders args record = [("other", ":value"), ("value", ":field")] ∧
      (Registry.standard.lookup "required_if").map (fun entry =>
          (entry.run (.text "") args record).resolve "name" "required_if" .empty) =
        some "name is required when :value is :field" := by
  intro args record
  have fails : requiredIf.check (.text "") args record = false := by decide +kernel
  obtain ⟨i, other, expected, decides, hplaceholders, hmessage⟩ :=
    requiredIf_message_tells_condition fails
  have hpair : other = ":value" ∧ expected = ":field" := by
    have h : requiredIf.placeholders args record =
        [("other", ":value"), ("value", ":field")] := by decide
    simpa [hplaceholders] using h
  obtain ⟨rfl, rfl⟩ := hpair
  exact ⟨fails, ⟨i, decides⟩, hplaceholders, hmessage "name" .empty rfl⟩

end FormRules.Builtin
