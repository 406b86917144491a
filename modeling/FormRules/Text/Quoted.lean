import FormRules.Text.Hidden

/-!
# Quoted text

Text in a log line stands between double quotes.

* A quote and a backslash get a backslash in front.
* Tab, newline, carriage return and the null character are written `\t`, `\n`,
  `\r` and `\0`.
* Any other hidden character is written by its number in lower case hexadecimal
  digits between braces after `\u`.
* Every other character stands for itself.
-/

namespace FormRules.Text

/-- A character by its number. -/
def escapeByNumber (c : Char) : List Char :=
  '\\' :: 'u' :: '\x7b' :: Nat.toDigits 16 c.toNat ++ ['\x7d']

/-- A character inside quotes. -/
def quoteChar (c : Char) : List Char :=
  if c = '"' then ['\\', '"']
  else if c = '\\' then ['\\', '\\']
  else if c = '\t' then ['\\', 't']
  else if c = '\n' then ['\\', 'n']
  else if c = '\r' then ['\\', 'r']
  else if c = '\x00' then ['\\', '0']
  else if isHidden c then escapeByNumber c
  else [c]

/-- A text in quotes. -/
def quote (s : String) : String :=
  String.ofList ('"' :: s.toList.flatMap quoteChar ++ ['"'])

end FormRules.Text
