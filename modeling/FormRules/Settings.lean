import FormRules.CommandLine

/-!
# Settings

The settings of a run come from the command line and from where the program runs.
The two files have to be different, as far as their paths show it.

The catalog is laid in three layers: the one of the user, the one of the current
directory, and the one that the command line names.
-/

namespace FormRules

/-- Where the program runs. -/
structure Surroundings where
  /-- The directory of the user's settings, if there is one. -/
  configDir : Option Path
  /-- The current directory. -/
  currentDir : Path
deriving DecidableEq, Repr

/-- The surroundings that the variables of an environment tell.  The settings of the user are where
`XDG_CONFIG_HOME` says, if that is a path from the root, and otherwise in the home directory. -/
def Surroundings.ofVariables (configHome home : Option String) (currentDir : Path) :
    Surroundings where
  configDir :=
    ((configHome.map Path.mk).filter Path.isAbsolute).or
      ((home.filter (!·.isEmpty)).map fun h => (Path.mk h).join ⟨".config"⟩)
  currentDir := currentDir

/-- The settings of a run. -/
structure Settings where
  /-- The path of the form file. -/
  form : Path
  /-- The path of the data file. -/
  data : Path
  /-- How the result is shown. -/
  format : ReportFormat
  /-- Whether to go on watching the files. -/
  watch : Bool
  /-- The directories of catalogs, lowest priority first. -/
  catalogDirs : List Path
  /-- The filter of log lines. -/
  logLevel : String
deriving DecidableEq, Repr

/-- The two files are one. -/
structure SamePath where
  /-- The path of the form file. -/
  path : Path
deriving DecidableEq, Repr

/-- The error in words. -/
def SamePath.message (e : SamePath) : String :=
  "--form and --data point at the same file: " ++ e.path.text

namespace Settings

/-- The directories of catalogs, lowest priority first. -/
def layers (place : Surroundings) (extra : Option Path) : List Path :=
  (place.configDir.map (·.join ⟨"formcheck"⟩)).toList ++ [place.currentDir.join ⟨".formcheck"⟩] ++
    extra.toList

/-- The settings that a command line asks for. -/
def ofCommandLine (place : Surroundings) (line : CommandLine) : Except SamePath Settings :=
  if line.form.same line.data then .error ⟨line.form⟩
  else
    .ok
      { form := line.form
        data := line.data
        format := line.format
        watch := line.watch
        catalogDirs := layers place line.catalogDir
        logLevel := line.logLevel }

end Settings

end FormRules
