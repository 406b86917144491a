import FormRules.Path
import FormRules.Report

/-!
# The command line

A command line is a list of arguments.

* `--form` and `--data` name the two files, and both are needed.
* `--format` is `text` or `json`, `--catalog-dir` names a directory, and
  `--log-level` is a filter of log lines.
* `--watch` keeps the program running.
* `--help` or `-h` and `--version` or `-V` ask for a text instead.

An option has its value behind an equals sign or in the next argument, which does
not begin with a hyphen then, unless it is a single one.  Nothing is given twice,
no path is empty, and there are no other arguments.  Two hyphens may end the list.

Arguments are taken from left to right.  The value of an option in an argument of
its own is looked at only when the next option or flag begins, or at the end.  So
an unknown argument is reported first, though it comes later.
-/

namespace FormRules

/-- What a command line asks for. -/
structure CommandLine where
  /-- The path of the form file. -/
  form : Path
  /-- The path of the data file. -/
  data : Path
  /-- How the result is shown. -/
  format : ReportFormat
  /-- Whether to go on watching the files. -/
  watch : Bool
  /-- A directory with a catalog of its own. -/
  catalogDir : Option Path
  /-- The filter of log lines. -/
  logLevel : String
deriving DecidableEq, Repr

namespace CommandLine

/-- Why a command line is not carried out. -/
inductive Refusal where
  /-- It asks for the help text. -/
  | help
  /-- It asks for the version. -/
  | version
  /-- The form file or the data file is not given. -/
  | missing
  /-- An option has no value, or one that it cannot have. -/
  | badValue
  /-- A flag has a value. -/
  | valueOfFlag
  /-- An option or a flag is given twice. -/
  | repeated
  /-- An argument is neither an option nor a flag. -/
  | unknown
deriving DecidableEq, Repr

/-! ## Options -/

/-- What takes a value. -/
inductive Setting where
  | form
  | data
  | format
  | catalogDir
  | logLevel
deriving DecidableEq, Repr

/-- What takes no value. -/
inductive Flag where
  | watch
  | help
  | version
deriving DecidableEq, Repr

/-- The option of a name. -/
def Setting.ofName? (name : List Char) : Option Setting :=
  [("form", .form), ("data", .data), ("format", .format), ("catalog-dir", .catalogDir),
    ("log-level", .logLevel)].lookup (String.ofList name)

/-- The flag of a name. -/
def Flag.ofName? (name : List Char) : Option Flag :=
  [("watch", .watch), ("help", .help), ("version", .version)].lookup (String.ofList name)

/-- The flag of a letter. -/
def Flag.ofLetter? : Char → Option Flag
  | 'h' => some .help
  | 'V' => some .version
  | _ => none

/-- The format of a name. -/
def formatOf? (name : String) : Option ReportFormat :=
  [("text", .text), ("json", .json)].lookup name

/-- Whether an option can have a value. -/
def Setting.accepts (s : Setting) (value : String) : Bool :=
  match s with
  | .form | .data | .catalogDir => !value.isEmpty
  | .format => (formatOf? value).isSome
  | .logLevel => true

/-! ## Arguments -/

/-- An argument by its look. -/
inductive Argument where
  /-- Two hyphens and a name, and maybe an equals sign and a value. -/
  | long (name : List Char) (value : Option String)
  /-- A hyphen and letters, of which the first is kept. -/
  | short (letter : Char)
  /-- Two hyphens alone. -/
  | ending
  /-- Anything else. -/
  | plain (text : String)
deriving DecidableEq, Repr

/-- How an argument looks. -/
def Argument.ofString (argument : String) : Argument :=
  match argument.toList with
  | ['-', '-'] => .ending
  | '-' :: '-' :: rest =>
    match Text.splitFirst? '=' rest with
    | some (name, value) => .long name (some (String.ofList value))
    | none => .long rest none
  | '-' :: letter :: _ => .short letter
  | _ => .plain argument

/-- What arguments have given so far. -/
structure Given where
  /-- The values of options. -/
  values : List (Setting × String)
  /-- Whether the watch flag was given. -/
  watch : Bool
deriving DecidableEq, Repr

namespace Given

/-- The value of an option. -/
def value? (g : Given) (s : Setting) : Option String := g.values.lookup s

/-- An option is given a value. -/
def add (g : Given) (s : Setting) (value : String) : Except Refusal Given :=
  if (g.value? s).isSome then .error .repeated
  else if s.accepts value then .ok { g with values := (s, value) :: g.values }
  else .error .badValue

/-- A flag is given. -/
def raise (g : Given) : Flag → Except Refusal Given
  | .help => .error .help
  | .version => .error .version
  | .watch => if g.watch then .error .repeated else .ok { g with watch := true }

/-- What is given, once the option that still waits has its value.  The option comes with its value
if one was seen. -/
def settle (g : Given) : Option (Setting × Option String) → Except Refusal Given
  | none => .ok g
  | some (_, none) => .error .badValue
  | some (s, some value) => g.add s value

end Given

/-- What arguments give, with an option that still waits. -/
def scan (g : Given) (waiting : Option (Setting × Option String)) :
    List Argument → Except Refusal Given
  | [] => g.settle waiting
  | .ending :: [] => g.settle waiting
  | .ending :: _ :: _ => .error .unknown
  | .long name value :: rest =>
    match Setting.ofName? name, Flag.ofName? name, value with
    | some s, _, some value => do
      let g ← g.settle waiting
      scan (← g.add s value) none rest
    | some s, _, none => do
      let g ← g.settle waiting
      scan g (some (s, none)) rest
    | none, some _, some _ => .error .valueOfFlag
    | none, some flag, none => do
      let g ← g.settle waiting
      scan (← g.raise flag) none rest
    | none, none, _ => .error .unknown
  | .short letter :: rest =>
    match Flag.ofLetter? letter with
    | some flag => do
      let g ← g.settle waiting
      scan (← g.raise flag) none rest
    | none => .error .unknown
  | .plain text :: rest =>
    match waiting with
    | some (s, none) => scan g (some (s, some text)) rest
    | _ => .error .unknown

/-! ## Parsing -/

/-- The command line that was given. -/
def ofGiven (g : Given) : Except Refusal CommandLine :=
  match g.value? .form, g.value? .data with
  | some form, some data =>
    .ok
      { form := ⟨form⟩
        data := ⟨data⟩
        format := ((g.value? .format).bind formatOf?).getD .text
        watch := g.watch
        catalogDir := (g.value? .catalogDir).map Path.mk
        logLevel := (g.value? .logLevel).getD "warn" }
  | _, _ => .error .missing

/-- The command line of arguments, without the name of the program. -/
def parse (arguments : List String) : Except Refusal CommandLine := do
  ofGiven (← scan ⟨[], false⟩ none (arguments.map .ofString))

end CommandLine

end FormRules
