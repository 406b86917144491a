import FormRules.Toml.Scalar
import FormRules.Toml.Table
import FormRules.Toml.Text

/-!
# Reading TOML

A document is a list of lines.  A line has a header or an entry, or neither, and
may end in a comment.

* White space is space and tab.  A line break is a newline, or a carriage return
  and a newline.
* A comment begins with a hash sign and ends with the line.  It holds no control
  character but tab.
* A key is a run of ASCII letters, digits, underscores and hyphens, or a string
  of one line.  Keys with dots between them form a path, of at most `pathLimit`
  keys.
* Arrays and inline tables may have line breaks and comments between their items,
  and a comma after the last one.  They nest at most `nestingLimit` deep.  In an
  inline table line breaks and comments may also stand around the equals signs.
* A byte order mark at the front is skipped.

Readers of nested values take a count of steps, of which the length of the text
is always enough.
-/

namespace FormRules.Toml

/-- How deep arrays and inline tables may nest. -/
def nestingLimit : Nat := 80

/-- How many keys a path may have. -/
def pathLimit : Nat := 80

/-! ## Between the values -/

/-- The text without the spaces and tabs at its front. -/
def skipGap (s : List Char) : List Char := s.dropWhile isGap

/-- The text without the white space, line breaks and comments at its front. -/
def skipLines : Bool → List Char → Option (List Char)
  | _, [] => some []
  | _, '\n' :: rest => skipLines false rest
  | _, '\r' :: '\n' :: rest => skipLines false rest
  | true, c :: rest => if isPlain c then skipLines true rest else none
  | false, '#' :: rest => skipLines true rest
  | false, c :: rest => if isGap c then skipLines false rest else some (c :: rest)

/-- The text that follows on a line of its own, if the line ends here. -/
def lineEnd? (s : List Char) : Option (List Char) :=
  match skipGap s with
  | [] => some []
  | '\n' :: rest => some rest
  | '\r' :: '\n' :: rest => some rest
  | '#' :: rest => some ('#' :: rest)
  | _ => none

/-! ## Keys -/

/-- Whether a key without quotes may hold the character. -/
def isBareChar (c : Char) : Bool := c.isAlphanum || c == '_' || c == '-'

/-- One key and what follows. -/
def key? : List Char → Option (String × List Char)
  | '"' :: rest => (basicRest rest).map fun r => (String.ofList r.1, r.2)
  | '\'' :: rest => (literalRest rest).map fun r => (String.ofList r.1, r.2)
  | s =>
    match s.takeWhile isBareChar with
    | [] => none
    | name => some (String.ofList name, s.dropWhile isBareChar)

/-- At most so many keys with dots between them, and what follows. -/
def keys? : Nat → List Char → Option (KeyPath × List Char)
  | 0, _ => none
  | limit + 1, s => do
    let (key, rest) ← key? (skipGap s)
    match skipGap rest with
    | '.' :: rest => (keys? limit rest).map fun r => (⟨key :: r.1.parents, r.1.key⟩, r.2)
    | rest => some (⟨[], key⟩, rest)

/-- A key path and what follows. -/
def keyPath? (s : List Char) : Option (KeyPath × List Char) := keys? pathLimit s

/-- A key path, an equals sign and what follows, given what is skipped around the sign. -/
def assigned? (skip : List Char → Option (List Char)) (s : List Char) :
    Option (KeyPath × List Char) := do
  let (path, rest) ← keyPath? s
  match ← skip rest with
  | '=' :: rest => (skip rest).map fun rest => (path, rest)
  | _ => none

/-! ## Values -/

mutual

/-- A value that may still nest so deep, and what follows. -/
def value : Nat → Nat → List Char → Option (Toml × List Char)
  | 0, _, _ => none
  | _ + 1, _, '"' :: rest => (quoted? ('"' :: rest)).map fun r => (.string (String.ofList r.1), r.2)
  | _ + 1, _, '\'' :: rest =>
    (quoted? ('\'' :: rest)).map fun r => (.string (String.ofList r.1), r.2)
  | _ + 1, 0, '[' :: _ => none
  | steps + 1, depth + 1, '[' :: rest =>
    (items steps depth rest).map fun r => (.array false r.1, r.2)
  | _ + 1, 0, '\x7b' :: _ => none
  | steps + 1, depth + 1, '\x7b' :: rest => do
    let (entries, rest) ← entries steps depth rest
    some (← inlineTable? entries, rest)
  | _ + 1, _, s => scalar? s

/-- The items of an array up to its closing bracket, and what follows. -/
def items : Nat → Nat → List Char → Option (List Toml × List Char)
  | 0, _, _ => none
  | steps + 1, depth, s => do
    match ← skipLines false s with
    | ']' :: rest => some ([], rest)
    | s =>
      let (v, rest) ← value steps depth s
      match ← skipLines false rest with
      | ']' :: rest => some ([v], rest)
      | ',' :: rest => (items steps depth rest).map fun r => (v :: r.1, r.2)
      | _ => none

/-- The entries of an inline table up to its closing brace, and what follows. -/
def entries : Nat → Nat → List Char → Option (List (KeyPath × Toml) × List Char)
  | 0, _, _ => none
  | steps + 1, depth, s => do
    match ← skipLines false s with
    | '\x7d' :: rest => some ([], rest)
    | s =>
      let (path, rest) ← assigned? (skipLines false) s
      let (v, rest) ← value steps depth rest
      match ← skipLines false rest with
      | '\x7d' :: rest => some ([(path, v)], rest)
      | ',' :: rest => (entries steps depth rest).map fun r => ((path, v) :: r.1, r.2)
      | _ => none

end

/-! ## Lines -/

/-- A line that is not empty, and what follows it. -/
def statement? (s : List Char) : Option (Statement × List Char) :=
  match s with
  | '[' :: '[' :: rest => do
    let (path, rest) ← keyPath? rest
    match rest with
    | ']' :: ']' :: rest => (lineEnd? rest).map fun rest => (.element path, rest)
    | _ => none
  | '[' :: rest => do
    let (path, rest) ← keyPath? rest
    match rest with
    | ']' :: rest => (lineEnd? rest).map fun rest => (.table path, rest)
    | _ => none
  | s => do
    let (path, rest) ← assigned? (fun s => some (skipGap s)) s
    let (v, rest) ← value (2 * s.length) nestingLimit rest
    (lineEnd? rest).map fun rest => (.entry path v, rest)

/-- The lines of a document. -/
def statements? : Nat → List Char → Option (List Statement)
  | 0, _ => none
  | steps + 1, s => do
    match ← skipLines false s with
    | [] => some []
    | s =>
      let (line, rest) ← statement? s
      (statements? steps rest).map (line :: ·)

/-- The text without a byte order mark at its front. -/
def dropMark : List Char → List Char
  | c :: rest => if c.toNat = 0xFEFF then rest else c :: rest
  | [] => []

/-- The entries of the root of the document that a text writes. -/
def read? (text : String) : Option TomlEntries := do
  let s := dropMark text.toList
  document? (← statements? (s.length + 1) s)

end FormRules.Toml
