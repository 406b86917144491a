import FormRules.OrderedMap

/-!
# The catalog of messages

The catalog has the default template of each validator, by name.  It starts with
the built-in templates.  Files from several directories are laid over it, one
after the other, and a later one wins for each name it has.  A validator without
an entry has the fallback template.

Catalogs are compared without regard to order.
-/

namespace FormRules

/-- What a catalog file says about itself. -/
structure CatalogHeader where
  /-- The name of the catalog. -/
  name : String
  /-- A description, if there is one. -/
  description : Option String
deriving DecidableEq, Repr

/-- The content of a catalog file. -/
structure CatalogFile where
  /-- What the file says about itself, if it does. -/
  header : Option CatalogHeader
  /-- The templates, by validator. -/
  messages : OrderedMap String
deriving DecidableEq

/-- Templates of messages, by validator. -/
structure Catalog where
  /-- The templates. -/
  templates : OrderedMap String

namespace Catalog

/-- The template of a validator without an entry. -/
def fallback : String := ":field is invalid"

/-- The catalog without entries. -/
def empty : Catalog := ⟨.empty⟩

/-- The built-in templates. -/
def builtin : Catalog :=
  ⟨.ofList
    [("required", ":field is required"),
      ("min", ":field must be at least :min characters"),
      ("max", ":field must be at most :max characters"),
      ("between", ":field must be between :min and :max"),
      ("email", ":field must be a valid email address"),
      ("uuid", ":field must be a valid UUID"),
      ("required_if", ":field is required when :other is :value"),
      ("required_with", ":field is required when :values is present")]⟩

/-- The template of a validator. -/
def template (c : Catalog) (validator : String) : String :=
  (c.templates.get? validator).getD fallback

/-- Sets one template. -/
def set (c : Catalog) (validator template : String) : Catalog :=
  ⟨c.templates.insert validator template⟩

/-- Lays a file over the catalog. -/
def merge (c : Catalog) (file : CatalogFile) : Catalog :=
  ⟨c.templates.insertAll file.messages.entries⟩

/-- The number of entries. -/
def size (c : Catalog) : Nat := c.templates.size

/-- Whether there is no entry. -/
def isEmpty (c : Catalog) : Bool := c.templates.isEmpty

/-- Whether two catalogs have the same entries. -/
def same (a b : Catalog) : Bool := a.templates.sameEntries (· == ·) b.templates

end Catalog

end FormRules
