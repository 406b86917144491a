import FormRules.Pattern
import FormRules.Validator

/-!
# Validators of format

`email` and `uuid` match the text of the value against a pattern, from its first
character to its last.

An email address has a local part and a domain with an `@` between them.  A
*label* is a run of characters other than white space, the at sign, the double
quote and the punctuation of `labelPunctuation`.

* The local part is labels joined by single dots, or at least one character that
  is no newline between double quotes.
* The domain is at least two labels joined by single dots, the last with at
  least two characters.

A UUID is 32 hexadecimal digits of either case in groups of 8, 4, 4, 4 and 12,
joined by hyphens.  The third group begins with a version from 0 to 5, and the
fourth with a variant from 8 to b.
-/

namespace FormRules.Builtin

/-! ## Email addresses -/

/-- The punctuation that no label holds, apart from the at sign and the quote. -/
def labelPunctuation : List Char := ['<', '>', '(', ')', '[', ']', '.', ',', ';', ':']

/-- Whether a label may hold the character. -/
def isLabelChar (c : Char) : Bool :=
  !(labelPunctuation.contains c || Text.isBlank c || c == '@' || c == '"')

/-- One label. -/
def labelPattern : Pattern := .plus (.one isLabelChar)

/-- Labels joined by dots. -/
def dottedPattern : Pattern :=
  .seq labelPattern (.star (.seq (.char '.') labelPattern))

/-- Text in quotes. -/
def quotedPattern : Pattern :=
  .inOrder [.char '"', .plus (.one (· != '\n')), .char '"']

/-- Labels that each end in a dot, and a label of at least two characters. -/
def domainPattern : Pattern :=
  .inOrder
    [.plus (.seq labelPattern (.char '.')), .one isLabelChar, .one isLabelChar,
      .star (.one isLabelChar)]

/-- An email address. -/
def emailPattern : Pattern :=
  .inOrder [.alt dottedPattern quotedPattern, .char '@', domainPattern]

/-- The text is an email address. -/
def email : Validator where
  check value _ _ := emailPattern.accepts value.display.toList

/-! ## UUIDs -/

/-- Whether a character is a hexadecimal digit. -/
def isHexDigit (c : Char) : Bool :=
  c.isDigit || ('a' ≤ c && c ≤ 'f') || ('A' ≤ c && c ≤ 'F')

/-- Whether a character is a version. -/
def isVersion (c : Char) : Bool := '0' ≤ c && c ≤ '5'

/-- Whether a character is a variant. -/
def isVariant (c : Char) : Bool := ['8', '9', 'a', 'b', 'A', 'B'].contains c

/-- As many hexadecimal digits as told. -/
def hexPattern (n : Nat) : Pattern := .times n (.one isHexDigit)

/-- A UUID. -/
def uuidPattern : Pattern :=
  .inOrder
    [hexPattern 8, .char '-', hexPattern 4, .char '-', .one isVersion, hexPattern 3, .char '-',
      .one isVariant, hexPattern 3, .char '-', hexPattern 12]

/-- The text is a UUID. -/
def uuid : Validator where
  check value _ _ := uuidPattern.accepts value.display.toList

end FormRules.Builtin
