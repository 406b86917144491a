import FormRules.Builtin.Dependent
import FormRules.Builtin.Format
import FormRules.Catalog
import FormRules.Registry

/-!
# The built-in validators

The registry of the built-in validators takes their templates from a catalog.
The templates are copied when the registry is made.
-/

namespace FormRules

namespace Builtin

/-- The built-in validators, by name. -/
def all : List (String × Validator) :=
  [("required", required), ("min", min), ("max", max), ("between", between), ("email", email),
    ("uuid", uuid), ("required_if", requiredIf), ("required_with", requiredWith)]

end Builtin

namespace Registry

/-- The built-in validators with the templates of a catalog. -/
def withBuiltins (catalog : Catalog) : Registry :=
  Builtin.all.foldl (fun r v => r.register v.1 v.2 (catalog.template v.1)) .empty

/-- The built-in validators with the built-in templates. -/
def standard : Registry := withBuiltins .builtin

end Registry

end FormRules
