import FormRules.Form
import FormRules.Text.Quoted

/-!
# A tour of a form

The tour fills in a form field by field and shows its state after every edit: the
verdict, and the first message of every field that has one.  The form uses every
built-in validator that depends on more than its own field.
-/

namespace FormRules.Tour

/-! ## The form -/

/-- The rules of the form. -/
def rules : Expressions :=
  .ofList
    [("name", "required|max:255"),
      ("email", "required|max:255|email"),
      ("age", "required|between:18,30"),
      ("uuid", "required|uuid"),
      ("aboutYou", "required_if:name,John,email,email@john.com"),
      ("surename", "required_with:name,age")]

/-- The messages of the form. -/
def messages : Overrides :=
  .ofList
    [("required", .everywhere "This field is required"),
      ("name", .inField (.ofList [("required", "Please enter your name")])),
      ("aboutYou", .inField (.ofList [("required_if", "Tell more about you.")]))]

/-- The edits, in order. -/
def edits : List (String × String) :=
  [("name", "John"),
    ("email", "email@john"),
    ("email", "email@john.com"),
    ("age", "17"),
    ("age", "25"),
    ("uuid", "123e4567-e89b-12d3-a456-426614174000"),
    ("aboutYou", "Likes tidy forms"),
    ("surename", "Smith")]

/-! ## The transcript -/

/-- The state of a form. -/
def state (f : Form) : String :=
  "valid: " ++ toString f.valid ++ "\n" ++
    String.join (f.rules.content.keys.map fun field =>
      ((f.errors.first? field).map fun m => "  " ++ field ++ ": " ++ m ++ "\n").getD "")

/-- What edits show, each with the state after it. -/
def play (f : Form) : List (String × String) → String
  | [] => ""
  | (field, text) :: rest =>
    let next := (f.setValue field (.text text)).form
    "\n> " ++ field ++ " = " ++ Text.quote text ++ "\n" ++ state next ++ play next rest

/-- What the tour shows, or the rule that it cannot start with. -/
def transcript : Except UnknownValidator String := do
  let f ← Form.create .standard ⟨0, rules⟩ .empty messages
  .ok ("=== Basic Form Demo ===\n" ++ state f ++ play f edits)

end FormRules.Tour
