import FormRules.Toml

/-!
# Shapes of TOML values

Files of the program are tables of strings for the most part.  A moment where a
table is expected counts as a table, with its text under a key that no file uses.

What a file says beyond that is left out, but its numbers need values all the same.
-/

namespace FormRules.Toml

mutual

/-- Whether every number in a value has a value. -/
def isValued : Toml → Bool
  | .unvalued => false
  | .array _ items => areValued items
  | .table _ entries => haveValues entries
  | _ => true

/-- Whether every number in the items of an array has a value. -/
def areValued : List Toml → Bool
  | [] => true
  | v :: rest => isValued v && areValued rest

/-- Whether every number in the entries of a table has a value. -/
def haveValues : TomlEntries → Bool
  | [] => true
  | (_, v) :: rest => isValued v && haveValues rest

end

/-- The key of the text of a moment that stands for a table. -/
def momentKey : String := "$__toml_private_datetime"

/-- The entries of a value that stands where a table is expected. -/
def entries? : Toml → Option TomlEntries
  | .table _ entries => some entries
  | .moment m => some [(momentKey, .string m.text)]
  | _ => none

/-- The text of a value that has to be a string. -/
def string? : Toml → Option String
  | .string s => some s
  | _ => none

/-- The entries of a table, each read in the same way, if all can be read. -/
def mapOf? {α : Type} (read : Toml → Option α) (v : Toml) : Option (OrderedMap α) := do
  let entries ← v.entries?
  let values ← entries.mapM fun e => (read e.2).map fun a => (e.1, a)
  some (.ofList values)

/-- A table of strings. -/
def strings? (v : Toml) : Option (OrderedMap String) := v.mapOf? string?

end FormRules.Toml
