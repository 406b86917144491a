import FormRules.Number.Decimal
import FormRules.Text.Hex
import FormRules.Text.Separated
import FormRules.Toml

/-!
# TOML scalars without quotes

A run of letters, digits and the signs `+ - _ . :` is a truth value, a moment or
a number.  A date may go on after one space with a time.

* Digits may have single underscores between them.
* An integer has an optional sign and no leading zero, or is hexadecimal after
  `0x`, octal after `0o` and binary after `0b`, where the digits may be missing.
* A float is such an integer with a point and digits, with an exponent, or with
  both.  The exponent may have leading zeros.  It is the nearest number.
* `inf` and `nan` are floats and may have a sign.

Some numbers have no value: an integer without digits or one that 128 bits do not
hold, a float beyond the finite numbers that is not written as `inf`, and a decimal
integer that goes on after an underscore as no decimal integer does (`isLoose`).
-/

namespace FormRules.Toml

/-! ## Digits -/

/-- The value of a digit in a base up to sixteen. -/
def digitIn? (base : Nat) (c : Char) : Option Nat := (Text.hexValue? c).filter (· < base)

/-- The digits of a run, without the underscores between them. -/
def digitRun? (base : Nat) (s : List Char) : Option (List Char) :=
  let parts := Text.split '_' s
  if parts.all fun p => !p.isEmpty && p.all fun c => (digitIn? base c).isSome then
    some parts.flatten
  else none

/-- The digits of a decimal integer, which have no zero in front. -/
def wholeRun? (s : List Char) : Option (List Char) := do
  let ds ← digitRun? 10 s
  match ds with
  | '0' :: _ :: _ => none
  | ds => some ds

/-- The number that digits write in a base. -/
def valueIn (base : Nat) (s : List Char) : Nat :=
  s.foldl (fun n c => base * n + (digitIn? base c).getD 0) 0

/-- The first character if it is a sign, and the rest. -/
def cutSign : List Char → Option Char × List Char := Numeral.scanSign

/-! ## Numbers -/

/-- Whether an integer fits into 128 bits, with or without a sign. -/
def fits (n : Int) : Bool := -(Nat.pow 2 127 : Nat) ≤ n && n < (Nat.pow 2 128 : Nat)

/-- An integer as a value. -/
def ofInt (n : Int) : Toml := if fits n then .integer n else .unvalued

/-- The integer that digits of a base write, which may be missing. -/
def based? (base : Nat) : List Char → Option Toml
  | [] => some .unvalued
  | ds => (digitRun? base ds).map fun ds => ofInt (valueIn base ds)

/-- The integer that a text writes. -/
def integer? : List Char → Option Toml
  | '0' :: 'x' :: ds => based? 16 ds
  | '0' :: 'o' :: ds => based? 8 ds
  | '0' :: 'b' :: ds => based? 2 ds
  | s =>
    let (sign, ds) := cutSign s
    (wholeRun? ds).map fun ds =>
      ofInt (if sign = some '-' then -(valueIn 10 ds : Int) else (valueIn 10 ds : Int))

/-- The text before and after the exponent letter. -/
def cutExponent (s : List Char) : List Char × Option (List Char) :=
  match s.dropWhile fun c => c != 'e' && c != 'E' with
  | [] => (s, none)
  | _ :: after => (s.takeWhile fun c => c != 'e' && c != 'E', some after)

/-- The numeral that a float writes. -/
def floatNumeral? (s : List Char) : Option Numeral := do
  let (sign, s) := cutSign s
  let (mantissa, power) := cutExponent s
  let (whole, fraction) :=
    match Text.splitFirst? '.' mantissa with
    | some (whole, fraction) => (whole, some fraction)
    | none => (mantissa, none)
  guard (fraction.isSome || power.isSome)
  let whole ← wholeRun? whole
  let fraction ← fraction.mapM (digitRun? 10)
  let power ← power.mapM fun p =>
    let (sign, ds) := cutSign p
    (digitRun? 10 ds).map fun ds => (sign, ds)
  some ⟨sign, whole, fraction, power⟩

/-- The float that a text writes. -/
def float? (s : List Char) : Option Toml :=
  let (sign, name) := cutSign s
  if name = ['i', 'n', 'f'] then some (.float (.infinite (sign = some '-')))
  else if name = ['n', 'a', 'n'] then some (.float .nan)
  else
    (floatNumeral? s).map fun n =>
      match (Decimal.ofNumeral n).toNumber with
      | .finite negative units => .float (.finite negative units)
      | _ => .unvalued

/-- Whether a text begins with a decimal integer and an underscore and has no point and no `e`.
Its underscores stand between hexadecimal digits, and the rest of it may be anything. -/
def isLoose (s : List Char) : Bool :=
  let isHex := fun c : Char => (digitIn? 16 c).isSome
  match Text.split '_' (cutSign s).2 with
  | whole :: part :: parts =>
    let rest := part :: parts
    (wholeRun? whole).isSome && whole != ['0'] &&
      rest.all (fun p => p.head?.any isHex && !p.any fun c => ['.', 'e', 'E'].contains c) &&
      rest.dropLast.all (fun p => p.getLast?.any isHex)
  | _ => false

/-! ## Any scalar -/

/-- Whether a scalar without quotes may hold the character. -/
def isScalarChar (c : Char) : Bool := c.isAlphanum || ['+', '-', '_', '.', ':'].contains c

/-- The longest scalar at the front of a text, and what follows. -/
def scalarText (s : List Char) : List Char × List Char :=
  let first := s.takeWhile isScalarChar
  let rest := s.dropWhile isScalarChar
  match Moment.date? first, rest with
  | some (_, []), ' ' :: c :: more =>
    if c.isDigit then
      (first ++ ' ' :: (c :: more).takeWhile isScalarChar, (c :: more).dropWhile isScalarChar)
    else (first, rest)
  | _, _ => (first, rest)

/-- The value of a scalar. -/
def ofScalar? (s : List Char) : Option Toml :=
  if s = ['t', 'r', 'u', 'e'] then some (.boolean true)
  else if s = ['f', 'a', 'l', 's', 'e'] then some (.boolean false)
  else
    ((((Moment.read? s).map Toml.moment).or (integer? s)).or (float? s)).or
      (if isLoose s then some .unvalued else none)

/-- A scalar and what follows. -/
def scalar? (s : List Char) : Option (Toml × List Char) :=
  let (text, rest) := scalarText s
  (ofScalar? text).map fun v => (v, rest)

end FormRules.Toml
