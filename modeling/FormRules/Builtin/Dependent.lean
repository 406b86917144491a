import FormRules.Builtin.Length

/-!
# Validators that depend on other fields

`required_if` takes pairs of a field and a value.  The last pair whose field is
in the record decides, even if the field holds nothing: if the record has the
value of the pair, the field is required.  A field at the end without a value
decides too, and then nothing is required.

`required_with` takes fields, and requires its own if one of them is not blank.

Both look at the record as it was entered.
-/

namespace FormRules.Builtin

/-! ## Pairs -/

/-- A field and the value that would make another field required. -/
abbrev Condition := String × Option String

/-- The arguments of `required_if`, two by two.  The last field may be without a value. -/
def conditions : List String → List Condition
  | [] => []
  | [field] => [(field, none)]
  | field :: value :: rest => (field, some value) :: conditions rest

/-- The last condition whose field is in the record. -/
def deciding (args : List String) (record : Record) : Option Condition :=
  (conditions args).reverse.find? fun c => record.contains c.1

/-- Whether the record has the value of a condition. -/
def holdsIn (record : Record) (c : Condition) : Bool :=
  match record.get? c.1, c.2 with
  | some value, some literal => value.matchesLiteral literal
  | _, _ => false

/-- The arguments that a condition is made of. -/
def conditionArgs (c : Condition) : List String := c.1 :: c.2.toList

/-! ## The validators -/

/-- Something was entered, if the deciding condition holds. -/
def requiredIf : Validator where
  check value args record :=
    !(deciding args record).any (holdsIn record) || isFilled value
  placeholders args record :=
    named ["other", "value"] (((deciding args record).map conditionArgs).getD args)

/-- Whether a field of the record is not blank. -/
def isPresent (record : Record) (field : String) : Bool :=
  (record.get? field).any fun value => !value.isBlank

/-- Something was entered, if one of the fields is not blank. -/
def requiredWith : Validator where
  check value args record := !args.any (isPresent record) || isFilled value
  placeholders args _ :=
    if args.isEmpty then [] else [("values", ", ".intercalate args)]

end FormRules.Builtin
