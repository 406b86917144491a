import FormRules.Override
import FormRules.Path
import FormRules.Rule.RuleSet
import FormRules.Toml.Reader
import FormRules.Toml.Shape

/-!
# Form files

A form file is a TOML document with a table `rules` of expressions and, if the
author wants, a table `messages` of overrides.  Anything else in it is left out.

An override is a string or a table of strings.
-/

namespace FormRules

/-- The content of a form file. -/
structure FormFile where
  /-- The expression of every field. -/
  rules : Expressions
  /-- The overrides of messages. -/
  messages : Overrides
deriving DecidableEq

/-- A text that is not a form file. -/
structure FormFileError where
  /-- Where the text comes from, if it comes from a file. -/
  path : Option Path
deriving DecidableEq, Repr

/-- The error in words. -/
def FormFileError.message (e : FormFileError) : String :=
  "Failed to parse form TOML" ++ (e.path.map fun p => ": " ++ p.text).getD ""

/-- The override that a TOML value writes. -/
def Override.ofToml? (v : Toml) : Option Override :=
  (v.string?.map Override.everywhere).or (v.strings?.map Override.inField)

namespace FormFile

/-- The form file that the root of a document is. -/
def ofToml? (root : TomlEntries) : Option FormFile := do
  guard (Toml.haveValues root)
  let rules ← (← Entries.find? "rules" root).strings?
  let messages ←
    match Entries.find? "messages" root with
    | none => some .empty
    | some v => v.mapOf? Override.ofToml?
  some ⟨rules, messages⟩

/-- The form file that a text is. -/
def parse (path : Option Path) (text : String) : Except FormFileError FormFile :=
  match (Toml.read? text).bind ofToml? with
  | some file => .ok file
  | none => .error ⟨path⟩

end FormFile

end FormRules
