import FormRules.Number
import FormRules.OrderedMap
import FormRules.Toml.Moment

/-!
# TOML values

A TOML value is a scalar, an array or a table.  A table keeps its entries in the
order of the text.  How a table or an array came about decides what later lines
of the text may still add to it, so that is part of the value.

A number may be well written and still have no value here.  That is an error only
where the number is used, so such a number is a value of its own.
-/

namespace FormRules

/-- How a table came about. -/
inductive TableOrigin where
  /-- It has a header of its own, or is the root. -/
  | header
  /-- It stands above a table with a header, and has none so far. -/
  | implied
  /-- It is named by the dotted key of an entry. -/
  | dotted
  /-- It is written between braces. -/
  | inline
deriving DecidableEq, Repr

/-- A TOML value. -/
inductive Toml where
  | string (s : String)
  | integer (n : Int)
  | float (x : Number)
  /-- A number without a value: it has no digits after its base, or is out of range. -/
  | unvalued
  | boolean (b : Bool)
  | moment (m : Moment)
  /-- An array, which headers may extend if it was made by one. -/
  | array (byHeader : Bool) (items : List Toml)
  /-- A table with its entries in order. -/
  | table (origin : TableOrigin) (entries : List (String × Toml))

/-- The entries of a TOML table, in order. -/
abbrev TomlEntries := List (String × Toml)

end FormRules
