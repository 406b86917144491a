import FormRules.Catalog
import FormRules.Path
import FormRules.Toml.Reader
import FormRules.Toml.Shape

/-!
# Catalog files

A catalog file is a TOML document with a table `messages` of templates and a
header `catalog`, both optional.  Anything else in it is left out.

The header is a table with a name and maybe a description.  It may also be an
array that begins with the two, and nobody looks at the items after them.
-/

namespace FormRules

/-- A text that is not a catalog file. -/
structure CatalogFileError where
  /-- Where the text comes from, or nothing for the built-in catalog. -/
  path : Option Path
deriving DecidableEq, Repr

/-- The error in words. -/
def CatalogFileError.message (e : CatalogFileError) : String :=
  match e.path with
  | some p => "Failed to parse message catalog TOML: " ++ p.text
  | none => "Failed to parse built-in message catalog TOML"

/-- The header that a TOML value writes. -/
def CatalogHeader.ofToml? : Toml → Option CatalogHeader
  | .array _ (name :: description :: _) => do
    some ⟨← name.string?, some (← description.string?)⟩
  | v => do
    guard v.isValued
    let entries ← v.entries?
    let name ← (← Entries.find? "name" entries).string?
    match Entries.find? "description" entries with
    | none => some ⟨name, none⟩
    | some d => some ⟨name, some (← d.string?)⟩

namespace CatalogFile

/-- The catalog file that the root of a document is. -/
def ofToml? (root : TomlEntries) : Option CatalogFile := do
  guard (root.all fun e => e.1 == "catalog" || e.2.isValued)
  let header ← (Entries.find? "catalog" root).mapM CatalogHeader.ofToml?
  let messages ←
    match Entries.find? "messages" root with
    | none => some .empty
    | some v => v.strings?
  some ⟨header, messages⟩

/-- The catalog file that a text is. -/
def parse (path : Option Path) (text : String) : Except CatalogFileError CatalogFile :=
  match (Toml.read? text).bind ofToml? with
  | some file => .ok file
  | none => .error ⟨path⟩

end CatalogFile

end FormRules
