/-!
# Message templates

A template is text with placeholders such as `:field` or `:min`.  It is cut from
the left into *pieces*.

* A *token* is a colon and an identifier, taken as long as possible.  An
  identifier begins with an ASCII letter or an underscore, and goes on with
  those and ASCII digits.
* Every other character is a piece of its own, a colon without an identifier
  included.

The cut depends on the template alone.  Filling replaces each token whose name
is bound by the text of the first binding of that name, and keeps every other
piece as it is.  The text put in is never looked at again.
-/

namespace FormRules.Template

/-- A name and the text that a placeholder of that name stands for. -/
abbrev Binding := String × String

/-! ## Pieces -/

/-- A piece of a template. -/
inductive Piece where
  /-- A placeholder, by its name. -/
  | token (name : List Char)
  /-- Any other character. -/
  | plain (c : Char)
deriving DecidableEq, Repr

/-- The piece as it is written. -/
def Piece.source : Piece → List Char
  | .token name => ':' :: name
  | .plain c => [c]

/-- Whether an identifier may begin with the character. -/
def isNameStart (c : Char) : Bool := c.isAlpha || c == '_'

/-- Whether an identifier may go on with the character. -/
def isNamePart (c : Char) : Bool := c.isAlphanum || c == '_'

/-- The longest identifier at the front of a text, or nothing. -/
def identifier : List Char → List Char
  | [] => []
  | c :: rest => if isNameStart c then c :: rest.takeWhile isNamePart else []

/-- The pieces of a text from which the first characters, as many as `skip` says, are left out. -/
def piecesAfter : Nat → List Char → List Piece
  | _, [] => []
  | skip + 1, _ :: rest => piecesAfter skip rest
  | 0, c :: rest =>
    if c = ':' ∧ identifier rest ≠ [] then
      .token (identifier rest) :: piecesAfter (identifier rest).length rest
    else .plain c :: piecesAfter 0 rest

/-- The pieces of a template. -/
def pieces (template : List Char) : List Piece := piecesAfter 0 template

/-! ## Filling -/

/-- The text that a name is bound to first. -/
def bound? (name : List Char) (bindings : List Binding) : Option String :=
  (bindings.find? fun b => b.1.toList = name).map Prod.snd

/-- A piece with its placeholder filled. -/
def Piece.fill (bindings : List Binding) : Piece → List Char
  | .token name => ((bound? name bindings).map String.toList).getD (':' :: name)
  | .plain c => [c]

/-- A template with its placeholders filled. -/
def fill (template : String) (bindings : List Binding) : String :=
  String.ofList ((pieces template.toList).flatMap (Piece.fill bindings))

end FormRules.Template
