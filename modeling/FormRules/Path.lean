import FormRules.Text.Separated

/-!
# Paths

A path is kept as it is written, since messages show it that way.  What it says
is given by its *steps*.

* Slashes separate steps, and any number of them counts as one.
* A slash at the front is a step to the root.
* A single dot is a step only at the front.  Anywhere else it is left out.
* Two dots are always a step, since the place they lead to depends on links.

Two paths are the same if their steps are.  The extension of a path is what
follows the last dot of its last name, unless that dot begins the name.
-/

namespace FormRules

/-- A path, as it is written. -/
structure Path where
  /-- The text of the path. -/
  text : String
deriving DecidableEq, Repr

namespace Path

/-! ## Steps -/

/-- A step of a path. -/
inductive Step where
  /-- To the root. -/
  | root
  /-- To where the path starts from. -/
  | here
  /-- To the directory above. -/
  | up
  /-- To an entry by its name. -/
  | entry (name : List Char)
deriving DecidableEq, Repr

/-- What separates the pieces of a path. -/
def slash : Char := '/'

/-- The pieces of a path between its slashes. -/
def pieces (p : Path) : List (List Char) := Text.split slash p.text.toList

/-- The step of a piece that is not at the front. -/
def step? (piece : List Char) : Option Step :=
  if piece = [] ∨ piece = ['.'] then none
  else if piece = ['.', '.'] then some .up
  else some (.entry piece)

/-- The step of the piece at the front. -/
def frontStep? (p : Path) (piece : List Char) : Option Step :=
  if p.text = "" then none
  else if piece = [] then some .root
  else if piece = ['.'] then some .here
  else step? piece

/-- The steps of a path. -/
def steps (p : Path) : List Step :=
  match p.pieces with
  | [] => []
  | front :: rest => (p.frontStep? front).toList ++ rest.filterMap step?

/-- Whether two paths have the same steps. -/
def same (p q : Path) : Bool := p.steps = q.steps

/-- Whether a path starts from the root. -/
def isAbsolute (p : Path) : Bool := p.text.startsWith "/"

/-! ## Joining -/

/-- The path of something that is given relative to a directory. -/
def join (directory : Path) (p : Path) : Path :=
  if p.isAbsolute || directory.text.isEmpty then p
  else if directory.text.endsWith "/" then ⟨directory.text ++ p.text⟩
  else ⟨directory.text ++ "/" ++ p.text⟩

/-! ## Extensions -/

/-- The last name of a path. -/
def name? (p : Path) : Option (List Char) :=
  match p.steps.getLast? with
  | some (.entry name) => some name
  | _ => none

/-- What follows the last dot of a name, unless the dot begins the name. -/
def nameExtension? (name : List Char) : Option (List Char) :=
  match Text.splitFirst? '.' name.reverse with
  | none => none
  | some (_, []) => none
  | some (after, _) => some after.reverse

/-- The extension of a path. -/
def extension? (p : Path) : Option (List Char) := p.name?.bind nameExtension?

end Path

end FormRules
