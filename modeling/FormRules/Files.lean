import FormRules.Path

/-!
# Files

The program sees the file system by asking where a path leads and what stands
there.  The answers at one moment are a value of their own, so what the program
does with files can be said of every way they may be.

Several paths may lead to one file.  What is read depends only on where a path
leads (`read?_eq_of_same`).

A file without valid UTF-8 cannot be read as text, and neither can a directory
nor what is not there.
-/

namespace FormRules

/-- The file system at one moment. -/
structure Files where
  /-- The path from the root, without dots and links, to what a path leads to. -/
  resolve? : Path → Option Path
  /-- The text of the file at the end of the steps of such a path, if it can be read. -/
  text? : List Path.Step → Option String

namespace Files

/-- Whether there is anything at a path. -/
def present (files : Files) (p : Path) : Bool := (files.resolve? p).isSome

/-- The text of the file at a path, if it can be read. -/
def read? (files : Files) (p : Path) : Option String :=
  (files.resolve? p).bind fun place => files.text? place.steps

/-- Paths that lead to one place hold one text. -/
theorem read?_eq_of_same {files : Files} {p q a b : Path} (hp : files.resolve? p = some a)
    (hq : files.resolve? q = some b) (h : a.same b = true) : files.read? p = files.read? q := by
  have hsteps : a.steps = b.steps := of_decide_eq_true h
  rw [read?, read?, hp, hq, Option.bind_some, Option.bind_some, hsteps]

end Files

end FormRules
