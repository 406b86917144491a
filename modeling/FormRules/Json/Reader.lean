import FormRules.Json
import FormRules.Text.Hex

/-!
# Reading JSON

The reader takes exactly the grammar of JSON, surrounded by white space.

* White space is space, tab, newline and carriage return.
* A number has no plus sign, no leading zero, and a digit on both sides of its
  point.
* A string holds no character below U+0020 that is not escaped.  An escape by
  number that is half of a surrogate pair has to be followed by the other half.
* Nothing may follow the value, and nothing but white space may come before it.

Every reading function gives back what follows the text it read.  Values nest, so
their functions take a count of the steps that they may still nest.  Each step
takes a character, so twice the length of the text is enough.
-/

namespace FormRules.Json

/-! ## Characters -/

/-- Whether a character is white space between tokens. -/
def isSpace (c : Char) : Bool := c == ' ' || c == '\t' || c == '\n' || c == '\r'

/-- The text without the white space at its front. -/
def skipSpace (s : List Char) : List Char := s.dropWhile isSpace

/-- The character that a letter stands for after a backslash. -/
def escaped? : Char → Option Char
  | '"' => some '"'
  | '\\' => some '\\'
  | '/' => some '/'
  | 'b' => some '\x08'
  | 'f' => some '\x0c'
  | 'n' => some '\n'
  | 'r' => some '\r'
  | 't' => some '\t'
  | _ => none

/-- The character of a pair of surrogates. -/
def pairOf? (high low : Nat) : Option Char :=
  if 0xDC00 ≤ low ∧ low < 0xE000 then
    Text.charOf? (0x10000 + (high - 0xD800) * 0x400 + (low - 0xDC00))
  else none

/-! ## Scalars -/

/-- The rest of a string after its opening quote, and what follows its closing quote. -/
def stringRest : List Char → Option (List Char × List Char)
  | [] => none
  | '"' :: rest => some ([], rest)
  | '\\' :: 'u' :: a :: b :: c :: d :: rest => do
    let n ← Text.hexNumber? [a, b, c, d]
    if 0xD800 ≤ n ∧ n < 0xDC00 then
      match rest with
      | '\\' :: 'u' :: e :: f :: g :: h :: rest =>
        let ch ← pairOf? n (← Text.hexNumber? [e, f, g, h])
        let (s, after) ← stringRest rest
        some (ch :: s, after)
      | _ => none
    else
      let ch ← Text.charOf? n
      let (s, after) ← stringRest rest
      some (ch :: s, after)
  | '\\' :: c :: rest => do
    let ch ← escaped? c
    let (s, after) ← stringRest rest
    some (ch :: s, after)
  | c :: rest => do
    guard (0x20 ≤ c.toNat)
    let (s, after) ← stringRest rest
    some (c :: s, after)

/-- Whether a numeral is one of JSON. -/
def isJsonNumeral (n : Numeral) : Bool :=
  n.sign != some '+' && n.fraction != some [] &&
    match n.whole with
    | [] => false
    | ['0'] => true
    | c :: _ => c != '0'

/-- A number and what follows it. -/
def number? (s : List Char) : Option (Numeral × List Char) := do
  let (n, rest) ← Numeral.scan Char.isDigit s
  guard (isJsonNumeral n)
  some (n, rest)

/-! ## Values -/

mutual

/-- A value and what follows it. -/
def value : Nat → List Char → Option (Json × List Char)
  | 0, _ => none
  | steps + 1, s =>
    match s with
    | '"' :: rest => (stringRest rest).map fun r => (.string (String.ofList r.1), r.2)
    | '[' :: rest =>
      match skipSpace rest with
      | ']' :: rest => some (.array [], rest)
      | rest => (items steps rest).map fun r => (.array r.1, r.2)
    | '\x7b' :: rest =>
      match skipSpace rest with
      | '\x7d' :: rest => some (.object [], rest)
      | rest => (members steps rest).map fun r => (.object r.1, r.2)
    | 't' :: 'r' :: 'u' :: 'e' :: rest => some (.bool true, rest)
    | 'f' :: 'a' :: 'l' :: 's' :: 'e' :: rest => some (.bool false, rest)
    | 'n' :: 'u' :: 'l' :: 'l' :: rest => some (.null, rest)
    | s => (number? s).map fun r => (.number r.1, r.2)

/-- The items of an array, at least one, and what follows the closing bracket. -/
def items : Nat → List Char → Option (List Json × List Char)
  | 0, _ => none
  | steps + 1, s =>
    match value steps s with
    | none => none
    | some (j, rest) =>
      match skipSpace rest with
      | ']' :: rest => some ([j], rest)
      | ',' :: rest => (items steps (skipSpace rest)).map fun r => (j :: r.1, r.2)
      | _ => none

/-- The members of an object, at least one, and what follows the closing brace. -/
def members : Nat → List Char → Option (List (String × Json) × List Char)
  | 0, _ => none
  | steps + 1, s =>
    match s with
    | '"' :: rest =>
      match stringRest rest with
      | none => none
      | some (name, rest) =>
        match skipSpace rest with
        | ':' :: rest =>
          match value steps (skipSpace rest) with
          | none => none
          | some (j, rest) =>
            match skipSpace rest with
            | '\x7d' :: rest => some ([(String.ofList name, j)], rest)
            | ',' :: rest =>
              (members steps (skipSpace rest)).map fun r => ((String.ofList name, j) :: r.1, r.2)
            | _ => none
        | _ => none
    | _ => none

end

/-- The value that a text writes. -/
def read? (text : String) : Option Json :=
  let s := text.toList
  match value (2 * s.length + 1) (skipSpace s) with
  | some (j, rest) => if (skipSpace rest).isEmpty then some j else none
  | none => none

end FormRules.Json
