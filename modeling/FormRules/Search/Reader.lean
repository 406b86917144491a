import FormRules.Search
import FormRules.Text.Hex

/-!
# Reading searches

A search is written as a regular expression.

* A character stands for itself, and a dot for any character but a newline.
* `|` stands between two choices, and round brackets around a part.
* `*`, `+`, `?`, `{n}`, `{n,}` and `{n,m}` repeat the part in front of them.  A
  question mark after one of these changes nothing.
* `^` and `$` stand for the start and the end of the text.
* Square brackets stand for one character out of several: characters, ranges,
  classes by name such as `[:alpha:]`, and brackets inside.  A caret at the front
  stands for all others.  `&&`, `--` and `~~` stand for the common characters, the
  difference, and what is in one of two sides only.
* A backslash before `d`, `s` or `w` stands for a digit, white space or a word
  character, and before the capital for any other character.
* A backslash before `A`, `z`, `b`, `B`, `<` and `>` stands for a condition, before
  `a`, `f`, `n`, `r`, `t` and `v` for a control, before `x`, `u` and `U` for a
  character by its number, and before any other ASCII character that is no letter
  and no digit for that character.
* Letters after `(?` switch modes on, and after a hyphen off, up to the end of
  the brackets around them, or inside these brackets if a colon follows.  The modes are
  `i` for letters of any case, `m` for the start and the end of every line, `s`
  for a dot that is any character, `R` for lines that a carriage return ends, and
  `x` for blanks and comments that are skipped.  `U` and `u` change nothing.
* Round brackets may begin with a name between angle brackets after `?` or `?P`.

What is written in another way is refused.
-/

namespace FormRules.Search

/-! ## Modes -/

/-- How the rest of an expression is read. -/
structure Modes where
  /-- Letters stand for their forms of any case. -/
  anyCase : Bool
  /-- `^` and `$` stand for the ends of lines. -/
  lines : Bool
  /-- The dot stands for a newline too. -/
  dotAll : Bool
  /-- A carriage return ends lines too. -/
  returns : Bool
  /-- Blanks and comments are skipped. -/
  spaced : Bool
deriving DecidableEq, Repr

namespace Modes

/-- The modes at the start. -/
def plain : Modes := ⟨false, false, false, false, false⟩

/-- The modes with one of them switched, given its letter. -/
def switch? (m : Modes) (on : Bool) : Char → Option Modes
  | 'i' => some { m with anyCase := on }
  | 'm' => some { m with lines := on }
  | 's' => some { m with dotAll := on }
  | 'R' => some { m with returns := on }
  | 'x' => some { m with spaced := on }
  | 'U' => some m
  | 'u' => if on then some m else none
  | _ => none

/-- The modes after a row of letters, each of which stands there once. -/
def switchAll? (m : Modes) (letters : List Char) : Option Modes := do
  guard (letters.eraseDups.length = letters.length && letters.getLast? != some '-')
  let on := letters.takeWhile (· != '-')
  let off := (letters.dropWhile (· != '-')).drop 1
  off.foldlM (fun m c => m.switch? false c) (← on.foldlM (fun m c => m.switch? true c) m)

/-- What a class stands for. -/
def fold (m : Modes) (k : CharClass) : CharClass := if m.anyCase then .anyCase k else k

/-- What a dot stands for. -/
def dot (m : Modes) : CharClass :=
  if m.dotAll then .except .nothing
  else if m.returns then .except (.ofList ['\n', '\r'])
  else .except (.only '\n')

/-- What a caret stands for. -/
def caret (m : Modes) : Condition :=
  if !m.lines then .textStart else if m.returns then .returnLineStart else .lineStart

/-- What a dollar sign stands for. -/
def dollar (m : Modes) : Condition :=
  if !m.lines then .textEnd else if m.returns then .returnLineEnd else .lineEnd

end Modes

/-- The text without blanks and comments at its front. -/
def skipSpaced : Bool → List Char → List Char
  | _, [] => []
  | true, c :: rest => skipSpaced (c != '\n') rest
  | false, '#' :: rest => skipSpaced true rest
  | false, c :: rest => if Text.isBlank c then skipSpaced false rest else c :: rest

/-- The text without what a mode says to skip at its front. -/
def Modes.skip (m : Modes) (s : List Char) : List Char := if m.spaced then skipSpaced false s else s

/-! ## Escapes -/

/-- What a backslash and what follows stand for. -/
inductive Escape where
  | char (c : Char)
  | kind (k : CharClass)
  | condition (c : Condition)

/-- The character that has the number of hexadecimal digits, if there is one. -/
def charOfHex? (ds : List Char) : Option Char := do
  let n ← Text.hexNumber? ds
  guard n.isValidChar
  some (Char.ofNat n)

/-- A number of so many digits or between braces, and what follows. -/
def number? (digits : Nat) : List Char → Option (Escape × List Char)
  | '\x7b' :: rest =>
    match rest.dropWhile (· != '\x7d') with
    | _ :: after =>
      match rest.takeWhile (· != '\x7d') with
      | [] => none
      | ds => (charOfHex? ds).map fun c => (.char c, after)
    | [] => none
  | rest => do
    guard (digits ≤ rest.length)
    (charOfHex? (rest.take digits)).map fun c => (.char c, rest.drop digits)

/-- The condition on words that a name between braces stands for. -/
def wordCondition? (name : String) : Option Condition :=
  [("start", .wordStart), ("end", .wordEnd), ("start-half", .noWordBefore),
    ("end-half", .noWordAfter)].lookup name

/-- The condition that is written after a `b`, and what follows.  A brace with something else than a
name begins a repetition. -/
def edge? : List Char → Option (Escape × List Char)
  | '\x7b' :: rest =>
    let isNameChar := fun c : Char => c.isAlpha || c == '-'
    match rest.takeWhile isNameChar, rest.dropWhile isNameChar with
    | [], [] => none
    | [], _ => some (.condition .wordEdge, '\x7b' :: rest)
    | name, '\x7d' :: after =>
      (wordCondition? (String.ofList name)).map fun c => (.condition c, after)
    | _, _ => none
  | rest => some (.condition .wordEdge, rest)

/-- What stands after a backslash, and what follows. -/
def escape? : List Char → Option (Escape × List Char)
  | [] => none
  | 'd' :: rest => some (.kind .digit, rest)
  | 'D' :: rest => some (.kind (.except .digit), rest)
  | 's' :: rest => some (.kind .blank, rest)
  | 'S' :: rest => some (.kind (.except .blank), rest)
  | 'w' :: rest => some (.kind .word, rest)
  | 'W' :: rest => some (.kind (.except .word), rest)
  | 'A' :: rest => some (.condition .textStart, rest)
  | 'z' :: rest => some (.condition .textEnd, rest)
  | 'b' :: rest => edge? rest
  | 'B' :: rest => some (.condition .noWordEdge, rest)
  | '<' :: rest => some (.condition .wordStart, rest)
  | '>' :: rest => some (.condition .wordEnd, rest)
  | 'a' :: rest => some (.char '\x07', rest)
  | 'f' :: rest => some (.char '\x0c', rest)
  | 'n' :: rest => some (.char '\n', rest)
  | 'r' :: rest => some (.char '\r', rest)
  | 't' :: rest => some (.char '\t', rest)
  | 'v' :: rest => some (.char '\x0b', rest)
  | 'x' :: rest => number? 2 rest
  | 'u' :: rest => number? 4 rest
  | 'U' :: rest => number? 8 rest
  | c :: rest => if c.toNat < 128 && !c.isAlphanum then some (.char c, rest) else none

/-! ## Square brackets -/

/-- The classes of ASCII characters by their names. -/
def namedClass? (name : String) : Option CharClass :=
  let digits : Nat × Nat := (0x30, 0x39)
  let capitals : Nat × Nat := (0x41, 0x5A)
  let smalls : Nat × Nat := (0x61, 0x7A)
  let signs : List (Nat × Nat) := [(0x21, 0x2F), (0x3A, 0x40), (0x5B, 0x60), (0x7B, 0x7E)]
  ([("alnum", [digits, capitals, smalls]), ("alpha", [capitals, smalls]), ("ascii", [(0x0, 0x7F)]),
    ("blank", [(0x09, 0x09), (0x20, 0x20)]), ("cntrl", [(0x0, 0x1F), (0x7F, 0x7F)]),
    ("digit", [digits]), ("graph", [(0x21, 0x7E)]), ("lower", [smalls]), ("print", [(0x20, 0x7E)]),
    ("punct", signs), ("space", [(0x09, 0x0D), (0x20, 0x20)]), ("upper", [capitals]),
    ("word", [digits, capitals, (0x5F, 0x5F), smalls]),
    ("xdigit", [digits, (0x41, 0x46), (0x61, 0x66)])].lookup name).map .ranges

/-- A class by name with colons around it, and what follows the closing bracket. -/
def named? (m : Modes) : List Char → Option (CharClass × List Char)
  | ':' :: rest => do
    let (negated, rest) :=
      match rest with
      | '^' :: rest => (true, rest)
      | rest => (false, rest)
    match rest.dropWhile (· != ':') with
    | ':' :: ']' :: after =>
      let k ← namedClass? (String.ofList (rest.takeWhile (· != ':')))
      let k := m.fold k
      some (if negated then .except k else k, after)
    | _ => none
  | _ => none

/-- How two sides between brackets are joined. -/
inductive Joint where
  /-- The characters of both. -/
  | common
  /-- The characters of the first only. -/
  | without
  /-- The characters of one of them only. -/
  | apart

/-- The class that two sides make. -/
def Joint.join (k l : CharClass) : Joint → CharClass
  | .common => .both k l
  | .without => .both k (.except l)
  | .apart => .either (.both k (.except l)) (.both l (.except k))

/-- A side joined to what stands before it. -/
def joined (m : Modes) (before : Option (CharClass × Joint)) (k : CharClass) : CharClass :=
  match before with
  | none => k
  | some (l, joint) => joint.join (m.fold l) (m.fold k)

/-- A character or an escape, and what follows. -/
def bracketPart? : List Char → Option (Escape × List Char)
  | [] => none
  | '\\' :: rest => escape? rest
  | c :: rest => some (.char c, rest)

/-- A character, a range or a class by escape, and what follows. -/
def bracketItem? (m : Modes) (s : List Char) : Option (CharClass × List Char) := do
  let (part, rest) ← bracketPart? s
  let single : Option (CharClass × List Char) :=
    match part with
    | .char c => some (.only c, m.skip rest)
    | .kind k => some (k, m.skip rest)
    | .condition _ => none
  match m.skip rest with
  | '-' :: rest =>
    match m.skip rest with
    | ']' :: _ => single
    | '-' :: _ => single
    | rest =>
      match part, ← bracketPart? rest with
      | .char a, (.char b, rest) => if a ≤ b then some (.span a b, rest) else none
      | _, _ => none
  | _ => single

/-- The text without so many hyphens at its front. -/
def dropHyphens (m : Modes) : Nat → List Char → List Char
  | steps + 1, '-' :: rest => dropHyphens m steps (m.skip rest)
  | _, rest => rest

/-- What stands for itself at the front of what brackets hold, hyphens or else a closing bracket,
and what follows. -/
def bracketFront (m : Modes) (s : List Char) : CharClass × List Char :=
  match s with
  | '-' :: _ => (.only '-', dropHyphens m s.length s)
  | ']' :: rest => (.only ']', rest)
  | s => (.nothing, s)

mutual

/-- What stands after an opening bracket up to the closing one, and what follows. -/
def bracket? : Nat → Modes → List Char → Option (CharClass × List Char)
  | 0, _, _ => none
  | steps + 1, m, s => do
    let (negated, s) :=
      match m.skip s with
      | '^' :: rest => (true, m.skip rest)
      | s => (false, s)
    let (front, s) := bracketFront m s
    let (k, rest) ← bracketItems? steps m none front s
    let k := m.fold k
    some (if negated then .except k else k, rest)

/-- The items between brackets, given the sides before this one and what this one has so far. -/
def bracketItems? :
    Nat → Modes → Option (CharClass × Joint) → CharClass → List Char →
      Option (CharClass × List Char)
  | 0, _, _, _, _ => none
  | steps + 1, m, before, side, s =>
    let next := fun (joint : Joint) rest =>
      bracketItems? steps m (some (joined m before side, joint)) .nothing rest
    match m.skip s with
    | [] => none
    | ']' :: rest => some (joined m before side, rest)
    | '&' :: '&' :: rest => next .common rest
    | '-' :: '-' :: rest => next .without rest
    | '~' :: '~' :: rest => next .apart rest
    | '[' :: rest =>
      match named? m rest with
      | some (k, rest) => bracketItems? steps m before (.either side k) rest
      | none => do
        let (k, rest) ← bracket? steps m rest
        bracketItems? steps m before (.either side k) rest
    | s => do
      let (k, rest) ← bracketItem? m s
      bracketItems? steps m before (.either side k) rest

end

/-! ## Repetitions -/

/-- A count with blanks around it, and what follows. -/
def count? (s : List Char) : Option (Nat × List Char) :=
  let s := s.dropWhile Text.isBlank
  match s.takeWhile Char.isDigit with
  | [] => none
  | ds =>
    if Text.digitsValue ds < Nat.pow 2 32 then
      some (Text.digitsValue ds, (s.dropWhile Char.isDigit).dropWhile Text.isBlank)
    else none

/-- The least and the most rounds between braces, and what follows the closing one. -/
def counts? (m : Modes) (s : List Char) : Option ((Nat × Option Nat) × List Char) := do
  let (least, rest) ← count? (m.skip s)
  match rest with
  | '\x7d' :: rest => some ((least, some least), rest)
  | ',' :: rest =>
    match m.skip rest with
    | '\x7d' :: rest => some ((least, none), rest)
    | rest =>
      match ← count? rest with
      | (most, '\x7d' :: rest) => if least ≤ most then some ((least, some most), rest) else none
      | _ => none
  | _ => none

/-- The text without the question mark that may stand after a repetition. -/
def dropLazy : List Char → List Char
  | '?' :: rest => rest
  | rest => rest

/-! ## Expressions -/

/-- A name up to its closing angle bracket: what follows the bracket. -/
def afterName? (s : List Char) : Option (List Char) :=
  match s.takeWhile (· != '>'), s.dropWhile (· != '>') with
  | c :: name, _ :: rest =>
    if (c == '_' || (Text.isWord c && !Text.isDecimal c)) &&
        name.all fun c => Text.isWord c || ['.', '[', ']'].contains c then
      some rest
    else none
  | _, _ => none

/-- What round brackets begin with. -/
inductive Opening where
  /-- A part follows, which is read in these modes. -/
  | part (m : Modes)
  /-- The brackets only switch modes. -/
  | modes (m : Modes)

/-- What stands after an opening bracket, and what follows. -/
def opening? (m : Modes) (s : List Char) : Option (Opening × List Char) :=
  match m.skip s with
  | '?' :: 'P' :: '<' :: rest => (afterName? rest).map fun rest => (.part m, rest)
  | '?' :: '<' :: rest => (afterName? rest).map fun rest => (.part m, rest)
  | '?' :: rest =>
    let letters := rest.takeWhile fun c => c != ':' && c != ')'
    match rest.dropWhile fun c => c != ':' && c != ')' with
    | ':' :: rest => (m.switchAll? letters).map fun m => (.part m, rest)
    | ')' :: rest =>
      if letters.isEmpty then none else (m.switchAll? letters).map fun m => (.modes m, rest)
    | _ => none
  | rest => some (.part m, rest)

/-- A search after another one that may be missing. -/
def follow (p : Search) (q : Option Search) : Search := q.elim p (.seq p)

/-- An expression up to a closing bracket or the end of the text, and what follows.  It is given the
choices before this one, what this one has so far, and the part that a repetition would repeat. -/
def expression? :
    Nat → Modes → Option Search → Search → Option Search → List Char → Option (Search × List Char)
  | 0, _, _, _, _, _ => none
  | steps + 1, m, choices, before, last, s =>
    let choice := follow before last
    let all := choices.elim choice (.alt · choice)
    let next := fun (p : Search) rest => expression? steps m choices choice (some p) rest
    let repeated := fun (least : Nat) (most : Option Nat) rest =>
      match last with
      | some p => expression? steps m choices before (some (.rep p least most)) rest
      | none => none
    match m.skip s with
    | [] => some (all, [])
    | ')' :: rest => some (all, ')' :: rest)
    | '|' :: rest => expression? steps m (some all) .done none rest
    | '(' :: rest => do
      match ← opening? m rest with
      | (.modes m, rest) => expression? steps m choices choice none rest
      | (.part inner, rest) =>
        match ← expression? steps inner none .done none rest with
        | (p, ')' :: rest) => next p rest
        | _ => none
    | '[' :: rest => do
      let (k, rest) ← bracket? (2 * rest.length + 2) m rest
      next (.one k) rest
    | '*' :: rest => repeated 0 none (dropLazy rest)
    | '+' :: rest => repeated 1 none (dropLazy rest)
    | '?' :: rest => repeated 0 (some 1) (dropLazy rest)
    | '\x7b' :: rest => do
      let ((least, most), rest) ← counts? m rest
      repeated least most (dropLazy (m.skip rest))
    | '.' :: rest => next (.one m.dot) rest
    | '^' :: rest => next (.meets m.caret) rest
    | '$' :: rest => next (.meets m.dollar) rest
    | '\\' :: rest => do
      match ← escape? rest with
      | (.char c, rest) => next (.one (m.fold (.only c))) rest
      | (.kind k, rest) => next (.one k) rest
      | (.condition c, rest) => next (.meets c) rest
    | c :: rest => next (.one (m.fold (.only c))) rest

/-- The search that an expression writes. -/
def read? (text : String) : Option Search :=
  match expression? (text.length + 1) .plain none .done none text.toList with
  | some (p, []) => some p
  | _ => none

end FormRules.Search
