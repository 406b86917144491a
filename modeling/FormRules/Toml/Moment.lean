import FormRules.Text.Digit

/-!
# Dates and times

A *moment* is a date, a time, or both, and with both it may have an offset.

* A date is `YYYY-MM-DD`, and the day exists in its month.
* A time is `HH:MM`, then `:SS` and a fraction if they are written.
* Date and time are joined by `T`, by `t` or by one space.
* An offset is `Z`, `z`, or a sign and `HH:MM`.

A moment is written back with `T` and `Z`, and with at most nine digits of its
fraction, without the zeros at their end.
-/

namespace FormRules

/-- A date. -/
structure Date where
  year : Nat
  month : Nat
  day : Nat
deriving DecidableEq, Repr

/-- A time of day. -/
structure Time where
  hour : Nat
  minute : Nat
  /-- The second, if it is written. -/
  second : Option Nat
  /-- The digits of the fraction, if it is written. -/
  fraction : Option (List Char)
deriving DecidableEq, Repr

/-- An offset from universal time. -/
inductive Offset where
  | universal
  /-- The offset in minutes. -/
  | minutes (east : Bool) (count : Nat)
deriving DecidableEq, Repr

/-- A date, a time, or both. -/
structure Moment where
  date : Option Date
  time : Option Time
  offset : Option Offset
deriving DecidableEq, Repr

namespace Moment

/-! ## Reading -/

/-- A number of exactly so many ASCII digits, and what follows. -/
def number? (places : Nat) (s : List Char) : Option (Nat × List Char) :=
  let ds := s.take places
  if ds.length = places && Text.allDigits ds then some (Text.digitsValue ds, s.drop places)
  else none

/-- The text after an expected character. -/
def expect? (c : Char) : List Char → Option (List Char)
  | d :: rest => if d = c then some rest else none
  | [] => none

/-- Whether a year has a 29th of February. -/
def isLeap (year : Nat) : Bool := year % 4 = 0 && (year % 100 ≠ 0 || year % 400 = 0)

/-- The number of days of a month. -/
def daysIn (year month : Nat) : Nat :=
  if month = 2 then (if isLeap year then 29 else 28)
  else if month = 4 ∨ month = 6 ∨ month = 9 ∨ month = 11 then 30
  else 31

/-- A date and what follows. -/
def date? (s : List Char) : Option (Date × List Char) := do
  let (year, s) ← number? 4 s
  let (month, s) ← number? 2 (← expect? '-' s)
  let (day, s) ← number? 2 (← expect? '-' s)
  guard (1 ≤ month ∧ month ≤ 12 ∧ 1 ≤ day ∧ day ≤ daysIn year month)
  some (⟨year, month, day⟩, s)

/-- The second and the fraction of a time, if they are written, and what follows. -/
def seconds? (s : List Char) : Option (Option Nat × Option (List Char) × List Char) :=
  match s with
  | ':' :: s => do
    let (second, s) ← number? 2 s
    guard (second ≤ 60)
    match s with
    | '.' :: s =>
      let ds := s.takeWhile Char.isDigit
      guard (!ds.isEmpty)
      some (some second, some ds, s.dropWhile Char.isDigit)
    | s => some (some second, none, s)
  | s => some (none, none, s)

/-- A time and what follows. -/
def time? (s : List Char) : Option (Time × List Char) := do
  let (hour, s) ← number? 2 s
  let (minute, s) ← number? 2 (← expect? ':' s)
  guard (hour ≤ 23 ∧ minute ≤ 59)
  let (second, fraction, s) ← seconds? s
  some (⟨hour, minute, second, fraction⟩, s)

/-- The offset that a text writes, or none for the empty text. -/
def offset? (s : List Char) : Option (Option Offset) :=
  match s with
  | [] => some none
  | ['Z'] => some (some .universal)
  | ['z'] => some (some .universal)
  | sign :: s => do
    guard (sign = '+' ∨ sign = '-')
    let (hours, s) ← number? 2 s
    let (minutes, s) ← number? 2 (← expect? ':' s)
    guard (s.isEmpty ∧ hours ≤ 23 ∧ minutes ≤ 59)
    some (some (.minutes (sign = '+') (60 * hours + minutes)))

/-- Whether a character joins a date and a time. -/
def isJoint (c : Char) : Bool := c == 'T' || c == 't' || c == ' '

/-- The moment that a text writes, from its first character to its last. -/
def read? (s : List Char) : Option Moment :=
  match date? s with
  | some (date, []) => some ⟨some date, none, none⟩
  | some (date, c :: rest) => do
    guard (isJoint c)
    let (time, rest) ← time? rest
    some ⟨some date, some time, ← offset? rest⟩
  | none => do
    let (time, rest) ← time? s
    guard rest.isEmpty
    some ⟨none, some time, none⟩

/-! ## Writing -/

/-- A number with zeros in front up to so many digits. -/
def padded (places n : Nat) : String :=
  let ds := Nat.toDigits 10 n
  String.ofList (List.replicate (places - ds.length) '0' ++ ds)

/-- A fraction without the zeros at its end, with at most nine digits and at least one. -/
def fractionText (digits : List Char) : String :=
  let kept := ((digits.take 9).reverse.dropWhile (· == '0')).reverse
  String.ofList (if kept.isEmpty then ['0'] else kept)

/-- A date as text. -/
def dateText (d : Date) : String := padded 4 d.year ++ "-" ++ padded 2 d.month ++ "-" ++ padded 2 d.day

/-- A time as text. -/
def timeText (t : Time) : String :=
  padded 2 t.hour ++ ":" ++ padded 2 t.minute ++
    ((t.second.map fun s => ":" ++ padded 2 s).getD "") ++
    ((t.fraction.map fun ds => "." ++ fractionText ds).getD "")

/-- An offset as text. -/
def offsetText : Offset → String
  | .universal => "Z"
  | .minutes east count =>
    (if east || count = 0 then "+" else "-") ++ padded 2 (count / 60) ++ ":" ++
      padded 2 (count % 60)

/-- A moment as text. -/
def text (m : Moment) : String :=
  (m.date.map dateText).getD "" ++ (if m.date.isSome && m.time.isSome then "T" else "") ++
    (m.time.map timeText).getD "" ++ (m.offset.map offsetText).getD ""

end Moment

end FormRules
