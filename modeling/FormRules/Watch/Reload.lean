import FormRules.Form
import FormRules.Watch.Paths

/-!
# Taking in a file again

When a watched file changes, the form takes in what it says now.

* The rules of a form file are taken only if they are other rules or stand in
  another order.  They then get a new identity, so that they are read.
* After that its overrides are taken, only if they say something else.  Their
  order does not matter.
* A record is always taken.

If the file cannot be loaded or its rules are refused, the form keeps its inputs
and its result.
-/

namespace FormRules

/-- Why a form did not take in a file. -/
inductive ReloadError where
  /-- The file could not be loaded. -/
  | load (error : LoadError)
  /-- The rules name an unknown validator. -/
  | rules (error : UnknownValidator)
deriving DecidableEq, Repr

/-- The error in one line. -/
def ReloadError.message : ReloadError → String
  | .load error => error.message
  | .rules error => error.message

/-- What taking in a file gives. -/
structure Reload where
  /-- The form after it. -/
  form : Form
  /-- Why the form kept its inputs, if it did. -/
  failure : Option ReloadError
  /-- What was logged. -/
  log : List Log.Entry

namespace Form

/-- Rules with an identity that neither the form nor its cache has. -/
def freshRules (f : Form) (content : Expressions) : SharedExpressions :=
  ⟨max f.rules.identity ((f.cache.source.map SharedExpressions.identity).getD 0) + 1, content⟩

/-- Takes rules if they are not the ones of the form. -/
def takeRules (f : Form) (rules : Expressions) : Change :=
  if f.rules.content = rules then ⟨f, none, []⟩ else f.setRules (f.freshRules rules)

/-- Takes overrides if they do not say what the ones of the form say. -/
def takeOverrides (f : Form) (overrides : Overrides) : Change :=
  if f.overrides.same overrides then ⟨f, none, []⟩ else f.setOverrides overrides

/-- Takes in the content of a form file. -/
def takeFile (f : Form) (file : FormFile) : Change :=
  let first := f.takeRules file.rules
  match first.failure with
  | some _ => first
  | none =>
    let second := first.form.takeOverrides file.messages
    { second with log := first.log ++ second.log }

/-- Takes in what an input holds now, if it can be loaded. -/
def takeInput (f : Form) (files : Files) (paths : WatchedPaths) :
    Input → Except LoadError Change
  | .form => (files.loadForm paths.form).map f.takeFile
  | .data => (files.loadRecord paths.data).map f.setRecord

/-- Takes in what an input holds now. -/
def reload (f : Form) (files : Files) (paths : WatchedPaths) (input : Input) : Reload :=
  match f.takeInput files paths input with
  | .error e => ⟨f, some (.load e), []⟩
  | .ok change => ⟨change.form, change.failure.map .rules, change.log⟩

end Form

end FormRules
