import FormRules.Form
import FormRules.Loading
import FormRules.Log.Filter
import FormRules.Settings

/-!
# Running the check once

A run loads the catalog, the form file and the data file, in this order, and
evaluates the form.  It ends in one of three ways.

* The result is valid.  The report is printed, and the exit status is 0.
* The result is not valid.  The report is printed, and the exit status is 1.
* Something is wrong with the paths, the files or the rules.  Nothing but the
  error is printed, and the exit status is 1.

A catalog never makes a run fail.
-/

namespace FormRules

/-! ## Errors -/

/-- Why a run has no result. -/
inductive RunError where
  /-- The two files are one. -/
  | samePath (error : SamePath)
  /-- A file could not be loaded. -/
  | load (error : LoadError)
  /-- The rules in a form file name an unknown validator. -/
  | rules (path : Path) (error : UnknownValidator)
deriving DecidableEq, Repr

/-- The error in words, outermost first. -/
def RunError.lines : RunError → List String
  | .samePath error => [error.message]
  | .load error => error.lines
  | .rules path error => ["Invalid rules in " ++ path.text, error.message]

/-- What the program prints about an error: the outermost line, and then the others. -/
def RunError.report (e : RunError) : String :=
  match e.lines with
  | [] => "Error:\n"
  | [line] => "Error: " ++ line ++ "\n"
  | line :: causes =>
    "Error: " ++ line ++ "\n\nCaused by:\n" ++ String.join (causes.map fun c => "    " ++ c ++ "\n")

/-! ## Forms from files -/

/-- What the two files of a form say. -/
structure Inputs where
  /-- The content of the form file. -/
  file : FormFile
  /-- The record in the data file. -/
  record : Record

namespace Settings

/-- The validators with the templates of the catalog. -/
def registry (s : Settings) (files : Files) : Registry :=
  .withBuiltins (files.loadCatalog s.catalogDirs)

/-- What the two files say. -/
def inputs (s : Settings) (files : Files) : Except LoadError Inputs := do
  let file ← files.loadForm s.form
  let record ← files.loadRecord s.data
  .ok ⟨file, record⟩

/-- The form of what the files say. -/
def create (s : Settings) (files : Files) (i : Inputs) : Except UnknownValidator Form :=
  Form.create (s.registry files) ⟨0, i.file.rules⟩ i.record i.file.messages

/-- The form that the settings name. -/
def openForm (s : Settings) (files : Files) : Except RunError Form := do
  let i ← (s.inputs files).mapError .load
  (s.create files i).mapError (.rules s.form)

/-- What opening the form logs. -/
def openLog (s : Settings) (files : Files) : List Log.Entry :=
  files.catalogLog s.catalogDirs ++
    match s.inputs files with
    | .error _ => []
    | .ok i => Form.createLog (s.registry files) ⟨0, i.file.rules⟩ i.record i.file.messages

/-- The lines that are printed of log entries. -/
def logLines (s : Settings) (entries : List Log.Entry) : List String :=
  (entries.filter (Log.Filter.parse s.logLevel).allows).map Log.Entry.line

end Settings

/-! ## Runs -/

/-- What a run does. -/
structure Run where
  /-- The exit status. -/
  exit : Nat
  /-- What is printed. -/
  output : String
  /-- The error that ended the run, if one did. -/
  error : Option RunError
  /-- The lines of the log. -/
  log : List String

/-- The report of a result with a line break at its end. -/
def Settings.report (s : Settings) (r : Result) : String := r.render s.format ++ "\n"

/-- The run of settings. -/
def Settings.run (s : Settings) (files : Files) : Run :=
  let log := s.logLines (s.openLog files)
  match s.openForm files with
  | .error e => ⟨1, "", some e, log⟩
  | .ok form => ⟨if form.valid then 0 else 1, s.report form.result, none, log⟩

/-- The run of a command line. -/
def CommandLine.run (line : CommandLine) (place : Surroundings) (files : Files) : Run :=
  match Settings.ofCommandLine place line with
  | .error e => ⟨1, "", some (.samePath e), []⟩
  | .ok settings => settings.run files

/-! ## Refused command lines -/

namespace CommandLine.Refusal

/-- The name and the version of the program. -/
def versionText : String := "formcheck 0.1.0\n"

/-- How the program is called. -/
def helpText : String :=
  String.join (
    ["Validate form data against rule expressions",
      "",
      "Usage: formcheck [OPTIONS] --form <FORM> --data <DATA>",
      "",
      "Options:",
      "      --form <FORM>                TOML file with [rules] and optional [messages]",
      "      --data <DATA>                JSON (or .toml) file with field values",
      "      --format <FORMAT>            Output format for the report [default: text] " ++
        "[possible values: text, json]",
      "      --watch                      Keep running and re-validate when the form or data " ++
        "file changes",
      "      --catalog-dir <CATALOG_DIR>  Directory containing a messages.toml catalog",
      "      --log-level <LOG_LEVEL>      Log level (trace, debug, info, warn, error) " ++
        "[default: warn]",
      "  -h, --help                       Print help",
      "  -V, --version                    Print version"].map (· ++ "\n"))

/-- What is printed on the standard output. -/
def output : Refusal → String
  | .help => helpText
  | .version => versionText
  | _ => ""

/-- The exit status. -/
def exit : Refusal → Nat
  | .help | .version => 0
  | _ => 2

/-- What is wrong with the command line. -/
def message : Refusal → String
  | .help | .version => ""
  | .missing => "error: --form and --data are required\n"
  | .badValue => "error: an option has no value or a value that it cannot have\n"
  | .valueOfFlag => "error: a flag has a value\n"
  | .repeated => "error: an option or a flag is given twice\n"
  | .unknown => "error: unexpected argument\n"

end CommandLine.Refusal

end FormRules
