import FormRules.Number.Decimal

/-!
# JSON values

A JSON value keeps what its text says: the members of an object stand in the
order of the text, a repeated name included, and a number is kept as its numeral.
-/

namespace FormRules

/-- A JSON value. -/
inductive Json where
  | null
  | bool (b : Bool)
  /-- A number, as it is written. -/
  | number (numeral : Numeral)
  | string (s : String)
  | array (items : List Json)
  /-- The members in the order of the text. -/
  | object (members : List (String × Json))

namespace Json

/-- A whole number. -/
def ofNat (n : Nat) : Json := .number ⟨none, Nat.toDigits 10 n, none, none⟩

/-- A list of strings. -/
def strings (items : List String) : Json := .array (items.map .string)

/-- The members of an object. -/
def members? : Json → Option (List (String × Json))
  | .object members => some members
  | _ => none

end Json

end FormRules
