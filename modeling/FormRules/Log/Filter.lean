import FormRules.Log
import FormRules.Search.Reader
import FormRules.Text.Separated

/-!
# Filters of the log

A filter is a list of *directives* and maybe a search.  A directive names a part
of the program, or none, and the last level that is printed for it.  For an entry
the directive with the longest name that its source begins with is the one that
counts, and a directive without a name counts last.  If there is a search, it has
to find something in the text of the entry.

A filter is written as directives with commas between them, and a search after a
slash.

* `level` stands for every part without a directive of its own.
* `part=level` stands for one part, and so does `part` or `part=` with every
  level.
* The levels are `off`, `error`, `warn`, `info`, `debug` and `trace`, in any case.
* A later directive for the same part replaces an earlier one in its place.
* An item with two equals signs, or with a level that is none, is left out.
* A search that cannot be read is left out.  A text with two slashes is left out
  as a whole.

Without any directive only errors are printed.
-/

namespace FormRules.Log

/-- What is printed of one part of the program. -/
structure Directive where
  /-- What the name of the part begins with, or nothing for every part. -/
  scope : Option String
  /-- The rank of the last level that is printed, zero for none. -/
  upTo : Nat
deriving DecidableEq, Repr

/-- What is printed of the log. -/
structure Filter where
  /-- The directives in the order in which their parts were first named. -/
  directives : List Directive
  /-- What the text of an entry has to contain, if that matters. -/
  wanted : Option Search
deriving DecidableEq, Repr

namespace Filter

/-- The rank of a level by its name, in any case. -/
def levelRank? (name : String) : Option Nat :=
  [("off", 0), ("error", 1), ("warn", 2), ("info", 3), ("debug", 4), ("trace", 5)].lookup
    name.toLower

/-- The directive that one item writes. -/
def item? (item : List Char) : Option Directive :=
  match (Text.split '=' item).map String.ofList with
  | [only] =>
    match levelRank? only with
    | some rank => some ⟨none, rank⟩
    | none => some ⟨some only, Level.trace.rank⟩
  | [scope, level] =>
    match Text.trim level.toList with
    | [] => some ⟨some scope, Level.trace.rank⟩
    | level => (levelRank? (String.ofList level)).map fun rank => ⟨some scope, rank⟩
  | _ => none

/-- A directive added to others, in place of the one for the same part. -/
def put (d : Directive) : List Directive → List Directive
  | [] => [d]
  | e :: rest => if e.scope = d.scope then d :: rest else e :: put d rest

/-- The directives that a list with commas writes. -/
def parseDirectives (s : List Char) : List Directive :=
  (Text.split ',' s).foldl
    (fun directives item =>
      match Text.trim item with
      | [] => directives
      | item => (item? item).elim directives (put · directives))
    []

/-- The filter that a text writes. -/
def parse (text : String) : Filter :=
  match Text.split '/' text.toList with
  | [directives] => ⟨parseDirectives directives, none⟩
  | [directives, search] => ⟨parseDirectives directives, Search.read? (String.ofList search)⟩
  | _ => ⟨[], none⟩

/-- How long the name of a directive is. -/
def weight (d : Directive) : Nat := (d.scope.map String.utf8ByteSize).getD 0

/-- The directive that counts for a source: of those with the longest name that fits, the last. -/
def directiveFor (filter : Filter) (source : String) : Option Directive :=
  (filter.directives.filter fun d => d.scope.all (source.startsWith ·)).foldl
    (fun best d => match best with
      | none => some d
      | some b => if weight b ≤ weight d then some d else some b)
    none

/-- Whether the level of an entry is one that is printed for its source. -/
def allowsLevel (filter : Filter) (e : Entry) : Bool :=
  match filter.directives with
  | [] => e.level.rank ≤ Level.error.rank
  | _ => (filter.directiveFor e.source.name).any fun d => e.level.rank ≤ d.upTo

/-- Whether an entry is printed. -/
def allows (filter : Filter) (e : Entry) : Bool :=
  filter.allowsLevel e && filter.wanted.all (·.finds e.text)

end Filter

end FormRules.Log
