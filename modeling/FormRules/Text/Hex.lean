/-!
# Hexadecimal digits

Escapes in strings give a character by its number in hexadecimal digits, of
either case.  Numbers above the last character, and those kept for pairs, are the
number of no character.
-/

namespace FormRules.Text

/-- The value of a hexadecimal digit. -/
def hexValue? (c : Char) : Option Nat :=
  if c.isDigit then some (c.toNat - 48)
  else if 'a' ≤ c ∧ c ≤ 'f' then some (c.toNat - 87)
  else if 'A' ≤ c ∧ c ≤ 'F' then some (c.toNat - 55)
  else none

/-- The number that hexadecimal digits write. -/
def hexNumber? (digits : List Char) : Option Nat :=
  digits.foldlM (fun n c => (hexValue? c).map (16 * n + ·)) 0

/-- The character of a number. -/
def charOf? (n : Nat) : Option Char := if n.isValidChar then some (Char.ofNat n) else none

/-- The character whose number hexadecimal digits write. -/
def charByNumber? (digits : List Char) : Option Char := (hexNumber? digits).bind charOf?

end FormRules.Text
