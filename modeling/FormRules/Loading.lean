import FormRules.File.Catalog
import FormRules.File.Data
import FormRules.File.Form
import FormRules.Files
import FormRules.Log

/-!
# Loading files

A file is read as text first, and the text is then taken for its content.  Either
step may fail.  A load error is told in one or more *lines*, the outermost first.

The catalog is loaded from a list of directories, lowest priority first.  Each
may have a file `messages.toml`.  A file that cannot be loaded is skipped as a
whole and leaves a warning, and a directory without the file is skipped silently.
-/

namespace FormRules

/-! ## Errors -/

/-- What a file is for. -/
inductive FileKind where
  | form
  | data
  | catalog
deriving DecidableEq, Repr

/-- The name of a kind of files. -/
def FileKind.name : FileKind → String
  | .form => "form file"
  | .data => "data file"
  | .catalog => "message catalog"

/-- Why a file could not be loaded. -/
inductive LoadError where
  /-- It cannot be read. -/
  | unreadable (kind : FileKind) (path : Path)
  /-- It is not there, so there is no path from the root to it. -/
  | unresolved (kind : FileKind) (path : Path)
  /-- It is not a form file. -/
  | form (error : FormFileError)
  /-- It is not a record. -/
  | data (path : Path) (error : DataError)
  /-- It is not a catalog file. -/
  | catalog (error : CatalogFileError)
deriving DecidableEq, Repr

namespace LoadError

/-- The error in words, outermost first. -/
def lines : LoadError → List String
  | .unreadable kind path => ["Failed to read " ++ kind.name ++ ": " ++ path.text]
  | .unresolved kind path => ["Failed to resolve " ++ kind.name ++ ": " ++ path.text]
  | .form error => [error.message]
  | .data path error => ["Invalid data file: " ++ path.text, error.message]
  | .catalog error => [error.message]

/-- The error in one line. -/
def message (e : LoadError) : String := ": ".intercalate e.lines

end LoadError

/-! ## Single files -/

namespace Files

/-- The text of a file of some kind. -/
def text (files : Files) (kind : FileKind) (path : Path) : Except LoadError String :=
  match files.read? path with
  | some text => .ok text
  | none => .error (.unreadable kind path)

/-- The form file at a path. -/
def loadForm (files : Files) (path : Path) : Except LoadError FormFile := do
  (FormFile.parse (some path) (← files.text .form path)).mapError .form

/-- The record in the data file at a path. -/
def loadRecord (files : Files) (path : Path) : Except LoadError Record := do
  ((DataFormat.ofPath path).parse (← files.text .data path)).mapError (.data path)

/-- The catalog file at a path. -/
def loadCatalogFile (files : Files) (path : Path) : Except LoadError CatalogFile := do
  (CatalogFile.parse (some path) (← files.text .catalog path)).mapError .catalog

/-- The path from the root to a file of some kind. -/
def resolve (files : Files) (kind : FileKind) (path : Path) : Except LoadError Path :=
  match files.resolve? path with
  | some path => .ok path
  | none => .error (.unresolved kind path)

/-! ## The catalog -/

/-- The path of the catalog file of a directory. -/
def catalogPath (directory : Path) : Path := directory.join ⟨"messages.toml"⟩

/-- The catalog file of a directory, or why it is skipped, or nothing if there is none. -/
def layer? (files : Files) (directory : Path) : Option (Except LoadError CatalogFile) :=
  let path := catalogPath directory
  if files.present path then some (files.loadCatalogFile path) else none

/-- The catalog with the file of a directory laid over it. -/
def addLayer (files : Files) (catalog : Catalog) (directory : Path) : Catalog :=
  match files.layer? directory with
  | some (.ok file) => catalog.merge file
  | _ => catalog

/-- What laying the file of a directory over a catalog logs. -/
def layerLog (files : Files) (directory : Path) : List Log.Entry :=
  match files.layer? directory with
  | some (.ok file) =>
    [⟨.debug, .catalog, "Loaded " ++ toString file.messages.size ++ " message templates from " ++
      (catalogPath directory).text⟩]
  | some (.error e) => [⟨.warn, .catalog, "Skipping message catalog: " ++ e.message⟩]
  | none => []

/-- The built-in catalog with the files of directories laid over it, lowest priority first. -/
def loadCatalog (files : Files) (directories : List Path) : Catalog :=
  directories.foldl files.addLayer .builtin

/-- What loading the catalog logs. -/
def catalogLog (files : Files) (directories : List Path) : List Log.Entry :=
  directories.flatMap files.layerLog

end Files

end FormRules
