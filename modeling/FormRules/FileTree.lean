import FormRules.Files

/-!
# Trees of files

A tree of files in memory stands at a path of the file system, its *mount*, which
is also where relative paths start from.  Outside the tree there is nothing.

* A file is written at a place together with the directories above it.
* Removing a file leaves the directories.
* A path is walked piece by piece.  Any further piece after a file leads nowhere,
  an empty one included, and so does going up out of the tree.
-/

namespace FormRules

/-- A place in a tree, by the names that lead to it. -/
abbrev Place := List (List Char)

/-- A tree of files. -/
structure FileTree where
  /-- Where the tree stands. -/
  mount : Path
  /-- The files, by place. -/
  files : List (Place × ByteArray)
  /-- The directories below the root. -/
  directories : List Place

namespace FileTree

/-- A tree without files. -/
def empty (mount : Path) : FileTree := ⟨mount, [], []⟩

/-! ## Looking -/

/-- Whether a place is a directory. -/
def isDirectory (t : FileTree) (place : Place) : Bool :=
  place.isEmpty || t.directories.contains place

/-- The content of the file at a place. -/
def content? (t : FileTree) (place : Place) : Option ByteArray :=
  (t.files.find? fun f => f.1 == place).map Prod.snd

/-- Whether there is anything at a place. -/
def occupied (t : FileTree) (place : Place) : Bool :=
  t.isDirectory place || (t.content? place).isSome

/-- Where the pieces of a path lead from a place. -/
def walk? (t : FileTree) (place : Place) : List (List Char) → Option Place
  | [] => some place
  | piece :: rest =>
    if !t.isDirectory place then none
    else if piece = [] ∨ piece = ['.'] then walk? t place rest
    else if piece = ['.', '.'] then
      if place.isEmpty then none else walk? t place.dropLast rest
    else if t.occupied (place ++ [piece]) then walk? t (place ++ [piece]) rest
    else none

/-- The pieces of a path from the root of the tree on, if it is in the tree. -/
def inner? (t : FileTree) (p : Path) : Option (List (List Char)) :=
  if t.mount.pieces <+: p.pieces then some (p.pieces.drop t.mount.pieces.length)
  else if p.isAbsolute || p.text.isEmpty then none
  else some p.pieces

/-- Where a path leads. -/
def place? (t : FileTree) (p : Path) : Option Place := (t.inner? p).bind (t.walk? [])

/-- The path of a place. -/
def pathOf (t : FileTree) (place : Place) : Path :=
  place.foldl (fun p name => p.join ⟨String.ofList name⟩) t.mount

/-- What the program sees of a tree. -/
def view (t : FileTree) : Files where
  resolve? p := (t.place? p).map t.pathOf
  text? steps :=
    (t.files.find? fun f => (t.pathOf f.1).steps = steps).bind fun f => String.fromUTF8? f.2

/-! ## Writing -/

/-- The place that pieces name, without looking whether it is there. -/
def placeOf (pieces : List (List Char)) : Place :=
  pieces.foldl
    (fun place piece =>
      if piece = [] ∨ piece = ['.'] then place
      else if piece = ['.', '.'] then place.dropLast
      else place ++ [piece])
    []

/-- The places above a place, without the root. -/
def above (place : Place) : List Place :=
  (List.range place.length).tail.map place.take

/-- Removes the file at a path. -/
def remove (t : FileTree) (p : Path) : FileTree :=
  let place := placeOf p.pieces
  { t with files := t.files.filter fun f => f.1 != place }

/-- Writes a file at a path inside the tree. -/
def write (t : FileTree) (p : Path) (content : ByteArray) : FileTree :=
  let place := placeOf p.pieces
  { t.remove p with
    files := (place, content) :: (t.remove p).files
    directories := t.directories ++ above place }

end FileTree

end FormRules
