import FormRules.Number.Rounding
import FormRules.Text.Digit

/-!
# Decimal numerals

A numeral is an optional sign, digits with an optional point among them, and an
optional exponent.

* Digits may be followed by a point and by more digits, none included.
* A point may come first if a digit follows it.
* An exponent is `e` or `E`, an optional sign and at least one digit.  Without
  a digit it is not part of the numeral.

`Numeral.scan` takes the longest numeral off the front of a text.  It is told
what a digit is, since some readers look for digits of any script first and
refuse those that are not ASCII afterwards.  `Decimal.ofParts` gives the exact
value of a numeral in ASCII digits, and `Decimal.toNumber` the nearest number.
-/

namespace FormRules

/-! ## Scanning -/

/-- A numeral, cut into its parts. -/
structure Numeral where
  /-- The sign, if one is written. -/
  sign : Option Char
  /-- The digits before the point. -/
  whole : List Char
  /-- The digits after the point, if a point is written. -/
  fraction : Option (List Char)
  /-- The sign and the digits of the exponent, if one is written. -/
  exponent : Option (Option Char × List Char)
deriving DecidableEq, Repr

namespace Numeral

/-- Takes a sign off the front, if there is one. -/
def scanSign : List Char → Option Char × List Char
  | '+' :: rest => (some '+', rest)
  | '-' :: rest => (some '-', rest)
  | s => (none, s)

/-- Takes an exponent off the front, if there is a complete one. -/
def scanExponent (digit : Char → Bool) : List Char → Option (Option Char × List Char) × List Char
  | c :: rest =>
    if c = 'e' ∨ c = 'E' then
      let (sign, after) := scanSign rest
      match after.takeWhile digit with
      | [] => (none, c :: rest)
      | ds => (some (sign, ds), after.dropWhile digit)
    else (none, c :: rest)
  | [] => (none, [])

/-- Takes the digits and the point off the front, if there is at least one digit. -/
def scanDigits (digit : Char → Bool) (s : List Char) :
    Option (List Char × Option (List Char) × List Char) :=
  let whole := s.takeWhile digit
  match s.dropWhile digit with
  | '.' :: rest =>
    let fraction := rest.takeWhile digit
    if whole.isEmpty && fraction.isEmpty then none
    else some (whole, some fraction, rest.dropWhile digit)
  | rest => if whole.isEmpty then none else some (whole, none, rest)

/-- The longest numeral at the front of a text, and what follows it. -/
def scan (digit : Char → Bool) (s : List Char) : Option (Numeral × List Char) :=
  let (sign, afterSign) := scanSign s
  (scanDigits digit afterSign).map fun (whole, fraction, afterDigits) =>
    let (exponent, rest) := scanExponent digit afterDigits
    (⟨sign, whole, fraction, exponent⟩, rest)

/-- Whether every digit of the numeral is an ASCII digit. -/
def isAscii (n : Numeral) : Bool :=
  Text.allDigits n.whole && Text.allDigits (n.fraction.getD []) &&
    Text.allDigits ((n.exponent.map Prod.snd).getD [])

end Numeral

/-! ## Exact values -/

/-- The exact value `± coefficient · 10 ^ exponent`. -/
structure Decimal where
  /-- Whether the sign is minus, also for zero. -/
  negative : Bool
  /-- The digits as a whole number. -/
  coefficient : Nat
  /-- The power of ten. -/
  exponent : Int
deriving DecidableEq, Repr

namespace Decimal

/-- The value of a numeral in ASCII digits. -/
def ofNumeral (n : Numeral) : Decimal :=
  let fraction := n.fraction.getD []
  let power : Int :=
    match n.exponent with
    | none => 0
    | some (some '-', ds) => -(Text.digitsValue ds : Int)
    | some (_, ds) => Text.digitsValue ds
  { negative := n.sign = some '-'
    coefficient := Text.digitsValue (n.whole ++ fraction)
    exponent := power - fraction.length }

/-- The number nearest to a decimal.  Two exponents decide at once: above 400 every value other
than zero is beyond the finite numbers, and a value below `10 ^ -400` rounds to zero. -/
def toNumber (d : Decimal) : Number :=
  if d.coefficient = 0 then .finite d.negative 0
  else if 400 < d.exponent then .infinite d.negative
  else if d.exponent + ((d.coefficient.log2 + 1) / 3 + 1 : Nat) < -400 then .finite d.negative 0
  else if 0 ≤ d.exponent then
    Number.ofRatio d.negative (d.coefficient * Nat.pow 10 d.exponent.toNat) 1
  else Number.ofRatio d.negative d.coefficient (Nat.pow 10 (-d.exponent).toNat)

/-- The value of a text that is one numeral in ASCII digits, from its first character to its last. -/
def read? (s : List Char) : Option Decimal :=
  match Numeral.scan Char.isDigit s with
  | some (n, []) => some (ofNumeral n)
  | _ => none

end Decimal

end FormRules
