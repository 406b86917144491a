import FormRules.Run

/-!
# What the two files hold

A form file or a data file is read as text and then taken for its content.  What
it holds, if it holds anything, can be told in one step (`Files.formFile?`,
`Files.record?`), and loading it gives just that.  If it holds nothing, the error
of loading it tells which of the two steps failed.

A form is opened from both files, the form file first.  The form file alone decides
the error if it cannot be loaded.
-/

namespace FormRules

namespace Files

/-- The form file at a path, if there is one. -/
def formFile? (files : Files) (path : Path) : Option FormFile :=
  (files.read? path).bind fun text => (Toml.read? text).bind FormFile.ofToml?

/-- The record in the data file at a path, if there is one. -/
def record? (files : Files) (path : Path) : Option Record :=
  (files.read? path).bind (DataFormat.ofPath path).record?

variable {files : Files} {path : Path}

/-! ## Form files -/

theorem loadForm_of_unreadable (h : files.read? path = none) :
    files.loadForm path = .error (.unreadable .form path) := by
  rw [loadForm, text, h]
  rfl

theorem loadForm_of_malformed {text : String} (hread : files.read? path = some text)
    (hfile : files.formFile? path = none) : files.loadForm path = .error (.form ⟨some path⟩) := by
  rw [formFile?, hread, Option.bind_some] at hfile
  rw [loadForm, Files.text, hread]
  simp only [bind, Except.bind, FormFile.parse, hfile]
  rfl

theorem loadForm_of_formFile? {file : FormFile} (h : files.formFile? path = some file) :
    files.loadForm path = .ok file := by
  rw [formFile?, Option.bind_eq_some_iff] at h
  obtain ⟨text, hread, hfile⟩ := h
  rw [loadForm, Files.text, hread]
  simp only [bind, Except.bind, FormFile.parse, hfile]
  rfl

theorem loadForm_eq_ok_iff {file : FormFile} :
    files.loadForm path = .ok file ↔ files.formFile? path = some file := by
  refine ⟨fun h => ?_, loadForm_of_formFile?⟩
  cases hread : files.read? path with
  | none => rw [loadForm_of_unreadable hread] at h; cases h
  | some text =>
    cases hfile : files.formFile? path with
    | none => rw [loadForm_of_malformed hread hfile] at h; cases h
    | some f =>
      rw [loadForm_of_formFile? hfile] at h
      rw [Except.ok.inj h]

/-! ## Data files -/

theorem loadRecord_of_unreadable (h : files.read? path = none) :
    files.loadRecord path = .error (.unreadable .data path) := by
  rw [loadRecord, text, h]
  rfl

theorem loadRecord_of_malformed {text : String} (hread : files.read? path = some text)
    (hrecord : files.record? path = none) :
    files.loadRecord path = .error (.data path ⟨DataFormat.ofPath path⟩) := by
  rw [record?, hread, Option.bind_some] at hrecord
  rw [loadRecord, Files.text, hread]
  simp only [bind, Except.bind, DataFormat.parse, hrecord]
  rfl

theorem loadRecord_of_record? {record : Record} (h : files.record? path = some record) :
    files.loadRecord path = .ok record := by
  rw [record?, Option.bind_eq_some_iff] at h
  obtain ⟨text, hread, hrecord⟩ := h
  rw [loadRecord, Files.text, hread]
  simp only [bind, Except.bind, DataFormat.parse, hrecord]
  rfl

theorem loadRecord_eq_ok_iff {record : Record} :
    files.loadRecord path = .ok record ↔ files.record? path = some record := by
  refine ⟨fun h => ?_, loadRecord_of_record?⟩
  cases hread : files.read? path with
  | none => rw [loadRecord_of_unreadable hread] at h; cases h
  | some text =>
    cases hrecord : files.record? path with
    | none => rw [loadRecord_of_malformed hread hrecord] at h; cases h
    | some r =>
      rw [loadRecord_of_record? hrecord] at h
      rw [Except.ok.inj h]

end Files

/-! ## Both files -/

namespace Settings

variable {s : Settings} {files : Files}

theorem inputs_eq_ok {file : FormFile} {record : Record} (hfile : files.loadForm s.form = .ok file)
    (hrecord : files.loadRecord s.data = .ok record) : s.inputs files = .ok ⟨file, record⟩ := by
  rw [inputs, hfile, hrecord]
  rfl

theorem inputs_of_loadForm_error {e : LoadError} (h : files.loadForm s.form = .error e) :
    s.inputs files = .error e := by
  rw [inputs, h]
  rfl

theorem inputs_eq_error {file : FormFile} {e : LoadError}
    (hfile : files.loadForm s.form = .ok file) (hrecord : files.loadRecord s.data = .error e) :
    s.inputs files = .error e := by
  rw [inputs, hfile, hrecord]
  rfl

theorem inputs_eq_ok_iff {i : Inputs} :
    s.inputs files = .ok i ↔
      files.loadForm s.form = .ok i.file ∧ files.loadRecord s.data = .ok i.record := by
  refine ⟨fun h => ?_, fun h => inputs_eq_ok h.1 h.2⟩
  cases hfile : files.loadForm s.form with
  | error e => rw [inputs_of_loadForm_error hfile] at h; cases h
  | ok file =>
    cases hrecord : files.loadRecord s.data with
    | error e => rw [inputs_eq_error hfile hrecord] at h; cases h
    | ok record =>
      rw [inputs_eq_ok hfile hrecord] at h
      cases h
      exact ⟨rfl, rfl⟩

theorem openForm_of_error {e : LoadError} (h : s.inputs files = .error e) :
    s.openForm files = .error (.load e) := by
  rw [openForm, h]
  rfl

theorem openForm_of_ok {i : Inputs} (h : s.inputs files = .ok i) :
    s.openForm files = (s.create files i).mapError (.rules s.form) := by
  rw [openForm, h]
  rfl

/-- A form that was opened is that of what the files say. -/
theorem exists_inputs_of_openForm {form : Form} (h : s.openForm files = .ok form) :
    ∃ i, s.inputs files = .ok i ∧ s.create files i = .ok form := by
  cases hinputs : s.inputs files with
  | error e => rw [openForm_of_error hinputs] at h; cases h
  | ok i =>
    rw [openForm_of_ok hinputs] at h
    cases hcreate : s.create files i with
    | error e => rw [hcreate] at h; cases h
    | ok f =>
      rw [hcreate] at h
      cases h
      exact ⟨i, rfl, hcreate⟩

end Settings

end FormRules
