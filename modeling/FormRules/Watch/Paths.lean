import FormRules.Loading

/-!
# Watched paths

Two files are watched.  They are known by the paths that lead to them from the
root, and an event on any other path is none of theirs.  If both paths are one,
it stands for the form file.
-/

namespace FormRules

/-- A file that is watched. -/
inductive Input where
  | form
  | data
deriving DecidableEq, Repr

/-- The name of an input in log lines. -/
def Input.name : Input → String
  | .form => "Form"
  | .data => "Data"

/-- The paths of the two files. -/
structure WatchedPaths where
  /-- The path of the form file. -/
  form : Path
  /-- The path of the data file. -/
  data : Path
deriving DecidableEq, Repr

namespace WatchedPaths

/-- The paths from the root to two files, which have to be there. -/
def find (files : Files) (form data : Path) : Except LoadError WatchedPaths := do
  let form ← files.resolve .form form
  let data ← files.resolve .data data
  .ok ⟨form, data⟩

/-- The input at a path. -/
def classify (w : WatchedPaths) (p : Path) : Option Input :=
  if p.same w.form then some .form
  else if p.same w.data then some .data
  else none

end WatchedPaths

end FormRules
