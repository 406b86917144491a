import FormRules.Validator

/-!
# The registry

A registry is a table of validators by name.  Registering a name again replaces
its entry.  An entry is read back under the very name it was registered with, so
a name is stored once.

`names` lists the names in ascending order of their characters, which is also the
order of their UTF-8 bytes.
-/

namespace FormRules

/-- A table of validators, each with the template of its message. -/
structure Registry where
  /-- The entries, by name. -/
  table : OrderedMap (Validator × String)

namespace Registry

/-- The registry without validators. -/
def empty : Registry := ⟨.empty⟩

/-- Registers a validator under a name, in place of the one that had the name. -/
def register (r : Registry) (name : String) (validator : Validator) (template : String) :
    Registry :=
  ⟨r.table.insert name (validator, template)⟩

/-- Registers a check under a name.  A message for it shows no parts of the rule. -/
def registerCheck (r : Registry) (name template : String)
    (check : Value → List String → Record → Bool) : Registry :=
  r.register name { check } template

/-- The entry of a name. -/
def lookup (r : Registry) (name : String) : Option Registered :=
  (r.table.get? name).map fun e => ⟨name, e.1, e.2⟩

/-- Whether a name is registered. -/
def contains (r : Registry) (name : String) : Bool := r.table.contains name

/-- The registered names, in ascending order. -/
def names (r : Registry) : List String := r.table.keys.mergeSort fun a b => !decide (b < a)

/-- The number of registered names. -/
def size (r : Registry) : Nat := r.table.size

/-- Whether no name is registered. -/
def isEmpty (r : Registry) : Bool := r.table.isEmpty

end Registry

end FormRules
