import FormRules.Number.Written
import FormRules.OrderedMap
import FormRules.Text.Quoted

/-!
# Values and records

A field holds a number, a text or nothing, and a record holds the values of its
fields as they were entered.  Validators look at a value in two steps.

* A value is *normalized* first: nothing becomes the empty text, and a text
  loses the white space at its ends.
* Its *length* is then measured.  A text of ASCII digits only measures as the
  number it is read as, any other text as its count of characters, and a number
  as itself.

So `"17"` and `17` have the same length, and `"0"` has the length of an empty
field.  Being *blank* is something else: a text of white space and nothing are
blank, and no number is.
-/

namespace FormRules

/-- What a field holds. -/
inductive Value where
  /-- A number. -/
  | number (n : Number)
  /-- A text. -/
  | text (s : String)
  /-- Nothing. -/
  | missing
deriving DecidableEq

/-- The values of the fields that were entered, in order. -/
abbrev Record := OrderedMap Value

namespace Value

/-- The value that validators are given. -/
def normalize : Value → Value
  | .number n => .number n
  | .text s => .text (String.ofList (Text.trim s.toList))
  | .missing => .text ""

/-- Whether nothing but white space was entered. -/
def isBlank : Value → Bool
  | .number _ => false
  | .text s => s.toList.all Text.isBlank
  | .missing => true

/-- The length of a text. -/
def textLength (s : List Char) : Number :=
  if !s.isEmpty && Text.allDigits s then (Decimal.read? s).elim .nan Decimal.toNumber
  else .ofNat s.length

/-- What the validators of length measure. -/
def length : Value → Number
  | .number n => n
  | .text s => textLength s.toList
  | .missing => .ofNat 0

/-- The value as a text. -/
def display : Value → String
  | .number n => n.text
  | .text s => s
  | .missing => ""

/-- Whether the value is the one that a rule argument spells.  Nothing is spelled by no argument. -/
def matchesLiteral (literal : String) : Value → Bool
  | .number n => n.text == literal
  | .text s => s == literal
  | .missing => false

/-- The value with its kind, for log lines. -/
def detail : Value → String
  | .number n => "Number(" ++ n.detail ++ ")"
  | .text s => "Text(" ++ Text.quote s ++ ")"
  | .missing => "Missing"

end Value

namespace Record

/-- The value of a field of a record that validators are given.  A field without an entry has the
same one as a field that holds nothing. -/
def normalized (record : Record) (field : String) : Value :=
  ((record.get? field).getD .missing).normalize

end Record

end FormRules
