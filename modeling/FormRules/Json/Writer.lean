import FormRules.Json

/-!
# Writing JSON

A value is written in one of two layouts.

* *Compact*: without any white space.
* *Pretty*: every item and every member on a line of its own, indented by two
  spaces for each level, with a space after the colon.  An empty array or object
  stays on its line.

In a string a quote and a backslash get a backslash in front, and so do the
letters for backspace, tab, newline, form feed and carriage return.  Any other
character below U+0020 is written as `\u` with four hexadecimal digits in lower
case.  All else stands for itself.
-/

namespace FormRules.Json

/-! ## Scalars -/

/-- A hexadecimal digit in lower case. -/
def hexDigit (n : Nat) : Char := Nat.digitChar (n % 16)

/-- A character inside a string. -/
def escape (c : Char) : List Char :=
  if c = '"' then ['\\', '"']
  else if c = '\\' then ['\\', '\\']
  else if c = '\x08' then ['\\', 'b']
  else if c = '\t' then ['\\', 't']
  else if c = '\n' then ['\\', 'n']
  else if c = '\x0c' then ['\\', 'f']
  else if c = '\r' then ['\\', 'r']
  else if c.toNat < 0x20 then ['\\', 'u', '0', '0', hexDigit (c.toNat / 16), hexDigit c.toNat]
  else [c]

/-- A string in quotes. -/
def writeString (s : String) : List Char := '"' :: s.toList.flatMap escape ++ ['"']

/-- A numeral as it is written. -/
def writeNumeral (n : Numeral) : List Char :=
  n.sign.toList ++ n.whole ++ (n.fraction.map ('.' :: ·)).getD [] ++
    (n.exponent.map fun e => 'e' :: (e.1.toList ++ e.2)).getD []

/-- A truth value. -/
def writeBool (b : Bool) : List Char :=
  if b then ['t', 'r', 'u', 'e'] else ['f', 'a', 'l', 's', 'e']

/-- The text of nothing. -/
def nullText : List Char := ['n', 'u', 'l', 'l']

/-! ## The compact layout -/

mutual

/-- A value without white space. -/
def compact : Json → List Char
  | .null => nullText
  | .bool b => writeBool b
  | .number n => writeNumeral n
  | .string s => writeString s
  | .array items => '[' :: compactItems items ++ [']']
  | .object members => '\x7b' :: compactMembers members ++ ['\x7d']

/-- The items of an array. -/
def compactItems : List Json → List Char
  | [] => []
  | [j] => compact j
  | j :: rest => compact j ++ ',' :: compactItems rest

/-- The members of an object. -/
def compactMembers : List (String × Json) → List Char
  | [] => []
  | [(name, j)] => writeString name ++ ':' :: compact j
  | (name, j) :: rest => writeString name ++ ':' :: compact j ++ ',' :: compactMembers rest

end

/-! ## The pretty layout -/

/-- The start of a line at a level. -/
def newLine (level : Nat) : List Char := '\n' :: List.replicate (2 * level) ' '

mutual

/-- A value whose first line stands at a level. -/
def pretty (level : Nat) : Json → List Char
  | .null => nullText
  | .bool b => writeBool b
  | .number n => writeNumeral n
  | .string s => writeString s
  | .array [] => ['[', ']']
  | .array items => '[' :: prettyItems (level + 1) items ++ newLine level ++ [']']
  | .object [] => ['\x7b', '\x7d']
  | .object members => '\x7b' :: prettyMembers (level + 1) members ++ newLine level ++ ['\x7d']

/-- The items of an array, each on a line of its own. -/
def prettyItems (level : Nat) : List Json → List Char
  | [] => []
  | [j] => newLine level ++ pretty level j
  | j :: rest => newLine level ++ pretty level j ++ ',' :: prettyItems level rest

/-- The members of an object, each on a line of its own. -/
def prettyMembers (level : Nat) : List (String × Json) → List Char
  | [] => []
  | [(name, j)] => newLine level ++ writeString name ++ ':' :: ' ' :: pretty level j
  | (name, j) :: rest =>
    newLine level ++ writeString name ++ ':' :: ' ' :: pretty level j ++ ',' ::
      prettyMembers level rest

end

/-- A value as one line of text. -/
def toLine (j : Json) : String := String.ofList j.compact

/-- A value as indented text. -/
def toPretty (j : Json) : String := String.ofList (j.pretty 0)

end FormRules.Json
