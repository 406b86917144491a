import FormRules.Text.Case
import FormRules.Text.Word

/-!
# Searching in a text

A *search* describes texts by classes of characters, concatenation, choice and
repetition, and by conditions on the seam between two characters.  It finds
something in a text if it describes a part of it.

`Search.finds` goes through the text from the left.  At each seam it has a list
of *stacks*, and a stack is a list of searches that have to describe what comes
next, one after the other.  A new stack with the whole search begins at every
seam.  A character takes each stack to those that may be left over after it
(`after`).  The search has found something as soon as no search of some stack
needs a character (`idle`).
-/

namespace FormRules

/-! ## Classes of characters -/

/-- A set of characters. -/
inductive CharClass where
  /-- The characters of ranges, both ends included. -/
  | ranges (rs : List (Nat × Nat))
  /-- The decimal digits. -/
  | digit
  /-- White space. -/
  | blank
  /-- The word characters. -/
  | word
  /-- What is not in a class. -/
  | except (k : CharClass)
  /-- What is in one of two classes. -/
  | either (k l : CharClass)
  /-- What is in both of two classes. -/
  | both (k l : CharClass)
  /-- What is in a class in some case. -/
  | anyCase (k : CharClass)
deriving DecidableEq, Repr

namespace CharClass

/-- Whether the class has the character. -/
def holds : CharClass → Char → Bool
  | .ranges rs, c => Text.inRanges rs c
  | .digit, c => Text.isDecimal c
  | .blank, c => Text.isBlank c
  | .word, c => Text.isWord c
  | .except k, c => !k.holds c
  | .either k l, c => k.holds c || l.holds c
  | .both k l, c => k.holds c && l.holds c
  | .anyCase k, c => (Text.caseForms c).any fun d => k.holds d

/-- The class without a character. -/
def nothing : CharClass := .ranges []

/-- One character. -/
def only (c : Char) : CharClass := .ranges [(c.toNat, c.toNat)]

/-- The characters of a list. -/
def ofList (cs : List Char) : CharClass := .ranges (cs.map fun c => (c.toNat, c.toNat))

/-- The characters from one to another. -/
def span (a b : Char) : CharClass := .ranges [(a.toNat, b.toNat)]

end CharClass

/-! ## Seams -/

/-- A place in a text. -/
structure Seam where
  /-- The character before it, unless the text begins here. -/
  before : Option Char
  /-- The character after it, unless the text ends here. -/
  after : Option Char
deriving DecidableEq, Repr

/-- A condition on a place. -/
inductive Condition where
  /-- The text begins. -/
  | textStart
  /-- The text ends. -/
  | textEnd
  /-- A line begins. -/
  | lineStart
  /-- A line ends. -/
  | lineEnd
  /-- A line begins, and a carriage return also ends lines. -/
  | returnLineStart
  /-- A line ends, and a carriage return also ends lines. -/
  | returnLineEnd
  /-- A word begins or ends. -/
  | wordEdge
  /-- No word begins or ends. -/
  | noWordEdge
  /-- A word begins. -/
  | wordStart
  /-- A word ends. -/
  | wordEnd
  /-- There is no word character before. -/
  | noWordBefore
  /-- There is no word character after. -/
  | noWordAfter
deriving DecidableEq, Repr

/-- Whether a place meets a condition. -/
def Condition.holds (seam : Seam) : Condition → Bool
  | .textStart => seam.before.isNone
  | .textEnd => seam.after.isNone
  | .lineStart => seam.before.all (· == '\n')
  | .lineEnd => seam.after.all (· == '\n')
  | .returnLineStart =>
    seam.before.all (· == '\n') || (seam.before == some '\r' && seam.after != some '\n')
  | .returnLineEnd =>
    seam.after.all (· == '\r') || (seam.after == some '\n' && seam.before != some '\r')
  | .wordEdge => seam.before.any Text.isWord != seam.after.any Text.isWord
  | .noWordEdge => seam.before.any Text.isWord == seam.after.any Text.isWord
  | .wordStart => !seam.before.any Text.isWord && seam.after.any Text.isWord
  | .wordEnd => seam.before.any Text.isWord && !seam.after.any Text.isWord
  | .noWordBefore => !seam.before.any Text.isWord
  | .noWordAfter => !seam.after.any Text.isWord

/-! ## Searches -/

/-- A description of parts of a text. -/
inductive Search where
  /-- The empty part. -/
  | done
  /-- One character of a class. -/
  | one (k : CharClass)
  /-- The empty part, where a condition is met. -/
  | meets (condition : Condition)
  /-- One part and then another. -/
  | seq (p q : Search)
  /-- One part or another. -/
  | alt (p q : Search)
  /-- A part so many times at least, and maybe at most. -/
  | rep (p : Search) (least : Nat) (most : Option Nat)
deriving DecidableEq, Repr

namespace Search

/-- Whether the empty part at a place is described. -/
def idle (seam : Seam) : Search → Bool
  | .done => true
  | .one _ => false
  | .meets condition => condition.holds seam
  | .seq p q => p.idle seam && q.idle seam
  | .alt p q => p.idle seam || q.idle seam
  | .rep p least _ => least == 0 || p.idle seam

/-- The stacks that may be left over after a character, given the place before it. -/
def after (seam : Seam) (c : Char) : Search → List (List Search)
  | .done => []
  | .one k => if k.holds c then [[]] else []
  | .meets _ => []
  | .seq p q =>
    (p.after seam c).map (· ++ [q]) ++ if p.idle seam then q.after seam c else []
  | .alt p q => p.after seam c ++ q.after seam c
  | .rep p least most =>
    if most = some 0 then []
    else
      -- Rounds that describe the empty part here count as done.
      let left := if p.idle seam then 0 else least - 1
      (p.after seam c).map (· ++ [.rep p left (most.map (· - 1))])

/-- The stacks that may be left over of a stack after a character. -/
def afterStack (seam : Seam) (c : Char) : List Search → List (List Search)
  | [] => []
  | p :: rest =>
    (p.after seam c).map (· ++ rest) ++ if p.idle seam then afterStack seam c rest else []

/-- Whether a search finds something in a text, given the character before the text and the stacks
that are left over. -/
def findsFrom (p : Search) : Option Char → List (List Search) → List Char → Bool
  | before, left, rest =>
    let pending := [p] :: left
    let seam : Seam := ⟨before, rest.head?⟩
    pending.any (·.all (idle seam)) ||
      match rest with
      | [] => false
      | c :: rest => findsFrom p (some c) (pending.flatMap (afterStack seam c)).eraseDups rest

/-- Whether a part of the text is described. -/
def finds (p : Search) (text : String) : Bool := p.findsFrom none [] text.toList

end Search

end FormRules
