import FormRules.Text.Hex

/-!
# TOML strings

A string stands between double quotes, where a backslash escapes, or between
single quotes, where nothing does.  Three quotes in place of one open a string of
several lines.

* A string of one line holds no line break.  No string holds a control character
  but tab, nor a carriage return that is not part of a line break.
* A line break right after three opening quotes is left out.
* One or two quotes may stand right before three closing ones.
* The escapes are `\b`, `\t`, `\n`, `\f`, `\r`, `\e`, `\"`, `\\`, and the
  number of a character after `\x`, `\u` and `\U` in two, four and eight
  hexadecimal digits.
* In a string of several lines a backslash at the end of a line leaves out every
  space, tab and line break up to the next other character.

Each reader starts after the opening quotes, and gives back the text of the
string and what follows its closing quotes.
-/

namespace FormRules.Toml

/-! ## Characters -/

/-- Whether a character is a space or a tab. -/
def isGap (c : Char) : Bool := c == ' ' || c == '\t'

/-- Whether a character may stand in a string or a comment as it is. -/
def isPlain (c : Char) : Bool := c == '\t' || (0x20 ≤ c.toNat && c.toNat != 0x7F)

/-- The character that a letter stands for after a backslash. -/
def escaped? : Char → Option Char
  | 'b' => some '\x08'
  | 't' => some '\t'
  | 'n' => some '\n'
  | 'f' => some '\x0c'
  | 'r' => some '\r'
  | 'e' => some '\x1b'
  | '"' => some '"'
  | '\\' => some '\\'
  | _ => none

/-- Whether nothing but spaces and tabs stands before the next line break. -/
def lineEnds (s : List Char) : Bool :=
  match s.dropWhile isGap with
  | '\n' :: _ => true
  | '\r' :: '\n' :: _ => true
  | _ => false

/-- The text without a line break at its front. -/
def dropLineBreak : List Char → List Char
  | '\n' :: rest => rest
  | '\r' :: '\n' :: rest => rest
  | s => s

/-- Up to two quotes that belong to a string, and what follows them. -/
def lastQuotes (quote : Char) : List Char → List Char × List Char
  | c :: d :: rest =>
    if c = quote then if d = quote then ([c, d], rest) else ([c], d :: rest) else ([], c :: d :: rest)
  | [c] => if c = quote then ([c], []) else ([], [c])
  | [] => ([], [])

/-- A character in front of the text of a string. -/
def before (c : Char) (r : List Char × List Char) : List Char × List Char := (c :: r.1, r.2)

/-! ## Strings with escapes -/

/-- The rest of a string of one line between double quotes. -/
def basicRest : List Char → Option (List Char × List Char)
  | [] => none
  | '"' :: rest => some ([], rest)
  | '\\' :: 'x' :: a :: b :: rest => do
    let ch ← Text.charByNumber? [a, b]
    (basicRest rest).map (before ch)
  | '\\' :: 'u' :: a :: b :: c :: d :: rest => do
    let ch ← Text.charByNumber? [a, b, c, d]
    (basicRest rest).map (before ch)
  | '\\' :: 'U' :: a :: b :: c :: d :: e :: f :: g :: h :: rest => do
    let ch ← Text.charByNumber? [a, b, c, d, e, f, g, h]
    (basicRest rest).map (before ch)
  | '\\' :: c :: rest => do
    let ch ← escaped? c
    (basicRest rest).map (before ch)
  | c :: rest => if isPlain c && c != '\\' then (basicRest rest).map (before c) else none

/-- The rest of a string of several lines between double quotes.  While `skipping`, spaces, tabs and
line breaks are left out. -/
def basicLines : Bool → List Char → Option (List Char × List Char)
  | _, [] => none
  | _, '"' :: '"' :: '"' :: rest => some (lastQuotes '"' rest)
  | _, '\\' :: 'x' :: a :: b :: rest => do
    let ch ← Text.charByNumber? [a, b]
    (basicLines false rest).map (before ch)
  | _, '\\' :: 'u' :: a :: b :: c :: d :: rest => do
    let ch ← Text.charByNumber? [a, b, c, d]
    (basicLines false rest).map (before ch)
  | _, '\\' :: 'U' :: a :: b :: c :: d :: e :: f :: g :: h :: rest => do
    let ch ← Text.charByNumber? [a, b, c, d, e, f, g, h]
    (basicLines false rest).map (before ch)
  | _, '\\' :: c :: rest =>
    if lineEnds (c :: rest) then basicLines true (c :: rest)
    else do
      let ch ← escaped? c
      (basicLines false rest).map (before ch)
  | skipping, '\r' :: '\n' :: rest =>
    if skipping then basicLines true rest
    else (basicLines false rest).map (before '\r' ∘ before '\n')
  | skipping, c :: rest =>
    if skipping && (isGap c || c == '\n') then basicLines true rest
    else if c == '\n' || (isPlain c && c != '\\') then (basicLines false rest).map (before c)
    else none

/-! ## Strings without escapes -/

/-- The rest of a string of one line between single quotes. -/
def literalRest : List Char → Option (List Char × List Char)
  | [] => none
  | c :: rest =>
    if c = '\'' then some ([], rest)
    else if isPlain c then (literalRest rest).map (before c)
    else none

/-- The rest of a string of several lines between single quotes. -/
def literalLines : List Char → Option (List Char × List Char)
  | [] => none
  | '\'' :: '\'' :: '\'' :: rest => some (lastQuotes '\'' rest)
  | '\r' :: '\n' :: rest => (literalLines rest).map (before '\r' ∘ before '\n')
  | c :: rest => if c == '\n' || isPlain c then (literalLines rest).map (before c) else none

/-! ## Any string -/

/-- A string of either kind and what follows, if the text begins with a quote. -/
def quoted? : List Char → Option (List Char × List Char)
  | '"' :: '"' :: '"' :: rest => basicLines false (dropLineBreak rest)
  | '"' :: rest => basicRest rest
  | '\'' :: '\'' :: '\'' :: rest => literalLines (dropLineBreak rest)
  | '\'' :: rest => literalRest rest
  | _ => none

end FormRules.Toml
