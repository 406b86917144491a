/-!
# The log

The program says what it does in log entries.  An entry has a level, the part of
the program that it comes from, and a text.  Entries are values: an operation
that logs gives back the entries along with its result, and a filter decides
later which of them are printed.
-/

namespace FormRules.Log

/-- How much an entry matters, the most first. -/
inductive Level where
  | error
  | warn
  | info
  | debug
  | trace
deriving DecidableEq, Repr

namespace Level

/-- The place of a level among the levels, from one. -/
def rank : Level → Nat
  | .error => 1
  | .warn => 2
  | .info => 3
  | .debug => 4
  | .trace => 5

/-- The name of a level. -/
def name : Level → String
  | .error => "ERROR"
  | .warn => "WARN"
  | .info => "INFO"
  | .debug => "DEBUG"
  | .trace => "TRACE"

end Level

/-- The parts of the program that write entries. -/
inductive Source where
  /-- The evaluation of rules. -/
  | evaluation
  /-- The cache of parsed rules. -/
  | cache
  /-- The loading of catalogs. -/
  | catalog
  /-- The watching of files. -/
  | watch
deriving DecidableEq, Repr

/-- The name of a part, as it is printed and as directives name it. -/
def Source.name : Source → String
  | .evaluation => "form_validator::validation::engine"
  | .cache => "form_validator::validation::cache"
  | .catalog => "form_validator::registry::catalog"
  | .watch => "form_validator::watch"

/-- One entry of the log. -/
structure Entry where
  /-- How much it matters. -/
  level : Level
  /-- Where it comes from. -/
  source : Source
  /-- What it says. -/
  text : String
deriving DecidableEq, Repr

/-- The entry as it is printed. -/
def Entry.line (e : Entry) : String := e.level.name ++ " " ++ e.source.name ++ ": " ++ e.text

end FormRules.Log
