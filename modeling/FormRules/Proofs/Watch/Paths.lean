import FormRules.Proofs.File.Form
import FormRules.Proofs.Loading
import FormRules.Watch

/-!
# The two watched files are two files

The settings refuse a form file and a data file whose paths are the same as they are written.  Two
spellings or a link may still lead both paths to one file.  A watch of one file would never renew
the record, since an event on the path of both counts for the form file.

It does not come to that.  A watch starts only after both files were loaded, and no text is both a
form file and a data file.  So the paths from the root differ, and an event counts for the data file
just if it is on the path of the data file (`watch_starts_with_two_files`).
-/

namespace FormRules

namespace Files

variable {files : Files}

theorem resolve_eq_ok_iff (kind : FileKind) {path place : Path} :
    files.resolve kind path = .ok place ↔ files.resolve? path = some place := by
  rw [resolve]
  cases files.resolve? path with
  | none => exact ⟨fun h => (by cases h), fun h => (by cases h)⟩
  | some p => rw [Except.ok.injEq, Option.some.injEq]

/-- A form file and a data file do not stand in one place. -/
theorem same_eq_false_of_loaded {form data a b : Path} {file : FormFile} {record : Record}
    (hfile : files.loadForm form = .ok file) (hrecord : files.loadRecord data = .ok record)
    (ha : files.resolve? form = some a) (hb : files.resolve? data = some b) :
    a.same b = false := by
  rw [loadForm_eq_ok_iff, formFile?, Option.bind_eq_some_iff] at hfile
  rw [loadRecord_eq_ok_iff, record?, Option.bind_eq_some_iff] at hrecord
  obtain ⟨text, hread, hform⟩ := hfile
  obtain ⟨text', hread', hdata⟩ := hrecord
  rw [Bool.eq_false_iff]
  intro hsame
  rw [read?_eq_of_same ha hb hsame, hread'] at hread
  cases hread
  rw [FormFile.record?_eq_none hform] at hdata
  cases hdata

end Files

namespace WatchedPaths

variable {files : Files} {paths : WatchedPaths} {form data p : Path}

theorem find_eq_ok_iff :
    find files form data = .ok paths ↔
      files.resolve? form = some paths.form ∧ files.resolve? data = some paths.data := by
  rw [← Files.resolve_eq_ok_iff .form, ← Files.resolve_eq_ok_iff .data, find]
  cases files.resolve .form form with
  | error e => simp [bind, Except.bind]
  | ok a =>
    cases files.resolve .data data with
    | error e => simp [bind, Except.bind]
    | ok b =>
      obtain ⟨c, d⟩ := paths
      simp [bind, Except.bind]

theorem classify_eq_form_iff : paths.classify p = some .form ↔ p.same paths.form = true := by
  rw [classify]
  split
  case isTrue h => simp [h]
  case isFalse h => split <;> simp [h]

/-- An event on the path of the data file counts for it, unless it is the path of the form file. -/
theorem classify_eq_data_iff (apart : paths.form.same paths.data = false) :
    paths.classify p = some .data ↔ p.same paths.data = true := by
  rw [classify]
  split
  case isTrue hform =>
    have hdata : p.same paths.data = false := by
      rw [← apart, Path.same, Path.same, of_decide_eq_true hform]
    simp [hdata]
  case isFalse => split <;> simp [*]

end WatchedPaths

namespace Settings

variable {s : Settings} {files : Files} {form : Form} {paths : WatchedPaths}

theorem openWatch_eq_ok_iff :
    s.openWatch files = .ok (form, paths) ↔
      s.openForm files = .ok form ∧ WatchedPaths.find files s.form s.data = .ok paths := by
  rw [openWatch]
  cases s.openForm files with
  | error e => simp [bind, Except.bind]
  | ok f =>
    cases WatchedPaths.find files s.form s.data with
    | error e => simp [bind, Except.bind, Except.mapError]
    | ok w => simp [bind, Except.bind, Except.mapError]

end Settings

/-- A text that is a form file is a data file in neither format.  So a watch that starts watches two
files, whatever the paths are that the settings name, and every event counts for the file whose path
it is on. -/
theorem watch_starts_with_two_files :
    (∀ (path : Option Path) (text : String) (file : FormFile),
      FormFile.parse path text = .ok file →
        ∀ format, DataFormat.parse format text = .error ⟨format⟩) ∧
    ∀ (s : Settings) (files : Files) (form : Form) (paths : WatchedPaths),
      s.openWatch files = .ok (form, paths) →
        files.resolve? s.form = some paths.form ∧ files.resolve? s.data = some paths.data ∧
        paths.form.same paths.data = false ∧
        ∀ p : Path, (paths.classify p = some .form ↔ p.same paths.form = true) ∧
          (paths.classify p = some .data ↔ p.same paths.data = true) := by
  refine ⟨fun _ _ _ h format => FormFile.parse_data_eq_error h format, ?_⟩
  intro s files form paths opened
  obtain ⟨hform, hpaths⟩ := Settings.openWatch_eq_ok_iff.1 opened
  obtain ⟨i, hinputs, -⟩ := Settings.exists_inputs_of_openForm hform
  obtain ⟨hfile, hrecord⟩ := Settings.inputs_eq_ok_iff.1 hinputs
  obtain ⟨ha, hb⟩ := WatchedPaths.find_eq_ok_iff.1 hpaths
  have apart : paths.form.same paths.data = false :=
    Files.same_eq_false_of_loaded hfile hrecord ha hb
  exact ⟨ha, hb, apart, fun p =>
    ⟨WatchedPaths.classify_eq_form_iff, WatchedPaths.classify_eq_data_iff apart⟩⟩

/-- The data file is given by a link that stands beside it. -/
theorem watch_starts_with_two_files_linked :
    let text := "rules.name = \"required\""
    let s : Settings := ⟨⟨"form.toml"⟩, ⟨"./latest"⟩, .text, true, [], "warn"⟩
    let paths : WatchedPaths := ⟨⟨"/work/form.toml"⟩, ⟨"/work/monday.json"⟩⟩
    let files : Files :=
      ⟨fun p => if p = s.form then some paths.form else some paths.data,
        fun steps => if steps = paths.form.steps then some text else some "\x7b\x7d"⟩
    DataFormat.toml.parse text = .error ⟨.toml⟩ ∧
      ∃ form, s.openWatch files = .ok (form, paths) ∧
        paths.classify ⟨"/work//monday.json"⟩ = some .data := by
  intro text s paths files
  have hfile : FormFile.parse none text = .ok ⟨.ofList [("name", "required")], .empty⟩ := by
    decide +kernel
  have hpaths : (s.openWatch files).map Prod.snd = .ok paths := by decide +kernel
  refine ⟨watch_starts_with_two_files.1 _ _ _ hfile .toml, ?_⟩
  cases hopen : s.openWatch files with
  | error e => rw [hopen] at hpaths; cases hpaths
  | ok opened =>
    obtain ⟨form, openedPaths⟩ := opened
    rw [hopen] at hpaths
    obtain rfl : openedPaths = paths := Except.ok.inj hpaths
    obtain ⟨-, -, -, hclassify⟩ := watch_starts_with_two_files.2 s files form _ hopen
    exact ⟨form, rfl, (hclassify _).2.2 (by decide +kernel)⟩

end FormRules
