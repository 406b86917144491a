import FormRules.Proofs.Watch.Reload

/-!
# A followed form is a form opened anew

A form is opened from two files and then *followed*: the files change in any way,
and now and then the form takes one of them in again, which may fail.  Beside the
form, a followed form remembers for each file the state of the file system in
which it was last taken in with success.  That is its *version*.

In every state the form is the one that opening the two versions from scratch
gives (`follow_eq_openForm`): the same rules in the same order, the same overrides
in some order, the same record and the same result.  So a watch never shows a
result that the program run once would not show, and nothing of a file that was
refused stays behind.

The proof carries one invariant along the steps, `Followed.Current`: the form is
fresh and says what the two versions say.  The result then needs no argument of
its own, since a fresh form has the result of its inputs, and overrides that say
the same give the same result.
-/

namespace FormRules

/-! ## Opening a form -/

/-- The form that two watched files say, each read at a moment of its own. -/
def WatchedPaths.openForm (paths : WatchedPaths) (registry : Registry)
    (formFiles dataFiles : Files) : Except ReloadError Form := do
  let file ← (formFiles.loadForm paths.form).mapError .load
  let record ← (dataFiles.loadRecord paths.data).mapError .load
  (Form.create registry ⟨0, file.rules⟩ record file.messages).mapError .rules

theorem WatchedPaths.openForm_eq_ok_iff {paths : WatchedPaths} {registry : Registry}
    {formFiles dataFiles : Files} {form : Form} :
    paths.openForm registry formFiles dataFiles = .ok form ↔
      ∃ file record, formFiles.loadForm paths.form = .ok file ∧
        dataFiles.loadRecord paths.data = .ok record ∧
        Form.create registry ⟨0, file.rules⟩ record file.messages = .ok form := by
  rw [openForm]
  cases formFiles.loadForm paths.form with
  | error e => simp [Except.mapError, bind, Except.bind]
  | ok file =>
    cases dataFiles.loadRecord paths.data with
    | error e => simp [Except.mapError, bind, Except.bind]
    | ok record =>
      cases h : Form.create registry ⟨0, file.rules⟩ record file.messages <;>
        simp [Except.mapError, bind, Except.bind, h]

/-! ## Following a form -/

/-- A form that is followed. -/
structure Followed where
  /-- The files as they are. -/
  files : Files
  /-- The form. -/
  form : Form
  /-- The files as they were when the form file was last taken in. -/
  formVersion : Files
  /-- The files as they were when the data file was last taken in. -/
  dataVersion : Files

/-- What happens to a followed form. -/
inductive FollowStep where
  /-- The files change: some are written, some are removed, some can no longer be read. -/
  | change (files : Files)
  /-- The form takes in an input. -/
  | reload (input : Input)

namespace Followed

/-- A form that was just opened. -/
def start (files : Files) (form : Form) : Followed := ⟨files, form, files, files⟩

/-- The version of an input that was taken in is the one of now. -/
def accept (w : Followed) : Input → Followed
  | .form => { w with formVersion := w.files }
  | .data => { w with dataVersion := w.files }

/-- One step.  A reload that fails leaves the versions. -/
def step (paths : WatchedPaths) (w : Followed) : FollowStep → Followed
  | .change files => { w with files }
  | .reload input =>
    let r := w.form.reload w.files paths input
    match r.failure with
    | none => { w with form := r.form }.accept input
    | some _ => { w with form := r.form }

/-- Steps, first to last. -/
def run (paths : WatchedPaths) (w : Followed) (steps : List FollowStep) : Followed :=
  steps.foldl (step paths) w

/-! ## The invariant -/

/-- The form is fresh and says what the versions of its files say. -/
structure Current (paths : WatchedPaths) (registry : Registry) (w : Followed) : Prop where
  fresh : w.form.Fresh registry
  holds : ∃ file record, w.formVersion.loadForm paths.form = .ok file ∧
    w.dataVersion.loadRecord paths.data = .ok record ∧ w.form.Holds file record

variable {paths : WatchedPaths} {registry : Registry} {w : Followed}

theorem current_start {files : Files} {form : Form}
    (opened : paths.openForm registry files files = .ok form) :
    (start files form).Current paths registry := by
  obtain ⟨file, record, hfile, hrecord, created⟩ := WatchedPaths.openForm_eq_ok_iff.1 opened
  exact ⟨Form.fresh_create created, file, record, hfile, hrecord, Form.holds_create created⟩

/-- A reload keeps the invariant, done or not. -/
theorem Current.reload (current : w.Current paths registry) (input : Input) :
    (w.step paths (.reload input)).Current paths registry := by
  obtain ⟨file, record, hfile, hrecord, holds⟩ := current.holds
  have fresh := current.fresh.reload w.files paths input
  rw [step]
  cases hfailure : (w.form.reload w.files paths input).failure with
  | some e =>
    have kept := current.fresh.reload_kept (by rw [hfailure]; exact Option.some_ne_none e)
    exact ⟨fresh, file, record, hfile, hrecord, kept.holds holds⟩
  | none =>
    cases input with
    | form =>
      obtain ⟨newFile, hnew, newHolds⟩ := current.fresh.reload_form hfailure
      rw [holds.record] at newHolds
      exact ⟨fresh, newFile, record, hnew, hrecord, newHolds⟩
    | data =>
      obtain ⟨newRecord, hnew, hrules, hoverrides, hrecord⟩ := current.fresh.reload_data hfailure
      have newHolds : (w.form.reload w.files paths .data).form.Holds file newRecord := by
        refine ⟨?_, ?_, hrecord⟩
        · rw [hrules, holds.rules]
        · rw [hoverrides, holds.overrides]
      exact ⟨fresh, file, newRecord, hfile, hnew, newHolds⟩

/-- Every step keeps the invariant. -/
theorem Current.step (current : w.Current paths registry) (s : FollowStep) :
    (w.step paths s).Current paths registry := by
  cases s with
  | change files => exact ⟨current.fresh, current.holds⟩
  | reload input => exact current.reload input

theorem Current.run (current : w.Current paths registry) (steps : List FollowStep) :
    (w.run paths steps).Current paths registry := by
  induction steps generalizing w with
  | nil => exact current
  | cons s rest ih => exact ih (current.step s)

/-- The versions open to a form with the inputs and the result of the followed one. -/
theorem Current.exists_openForm (current : w.Current paths registry) :
    ∃ g, paths.openForm registry w.formVersion w.dataVersion = .ok g ∧
      w.form.rules.content = g.rules.content ∧ w.form.overrides.same g.overrides = true ∧
      w.form.record = g.record ∧ w.form.result = g.result := by
  obtain ⟨file, record, hfile, hrecord, holds⟩ := current.holds
  have hresult := current.fresh.evaluate_of_holds holds
  have created : Form.create registry ⟨0, file.rules⟩ record file.messages =
      .ok ⟨registry, RuleCache.empty.fetch ⟨0, file.rules⟩, ⟨0, file.rules⟩, record, file.messages,
        w.form.result⟩ :=
    Form.create_eq_ok_iff.2 ⟨w.form.result, hresult, rfl⟩
  exact ⟨_, WatchedPaths.openForm_eq_ok_iff.2 ⟨file, record, hfile, hrecord, created⟩,
    holds.rules, holds.overrides, holds.record, rfl⟩

/-! ## Any steps -/

/-- After any steps, the form is the one that opening the last accepted versions of the two files
gives, and a reload that fails changes neither its inputs nor its result. -/
theorem follow_eq_openForm {files : Files} {form : Form}
    (opened : paths.openForm registry files files = .ok form) (steps : List FollowStep) :
    let w := (start files form).run paths steps
    (∃ g, paths.openForm registry w.formVersion w.dataVersion = .ok g ∧
      w.form.rules.content = g.rules.content ∧ w.form.overrides.same g.overrides = true ∧
      w.form.record = g.record ∧ w.form.result = g.result) ∧
    ∀ files input, (w.form.reload files paths input).failure ≠ none →
      (w.form.reload files paths input).form.Keeps w.form := by
  intro w
  have current : w.Current paths registry := (current_start opened).run steps
  exact ⟨current.exists_openForm, fun files input => current.fresh.reload_kept⟩

/-- A form file that breaks, and one that names an unknown validator beside a new record. -/
theorem follow_eq_openForm_broken :
    let paths : WatchedPaths := ⟨⟨"form"⟩, ⟨"data"⟩⟩
    let disk : String → String → Files := fun form data =>
      ⟨some, fun steps => if steps = paths.form.steps then some form else some data⟩
    let before := disk "rules.name = \"required|min:3\"" "\x7b\x7d"
    let broken := disk "rules" "\x7b\x7d"
    let after := disk "rules.name = \"slug\"" "\x7b\"name\": \"Jo\"\x7d"
    ∃ form, paths.openForm .standard before before = .ok form ∧
      let w := (start before form).run paths
        [.change broken, .reload .form, .change after, .reload .form, .reload .data]
      ∃ g, paths.openForm .standard w.formVersion w.dataVersion = .ok g ∧
        w.form.rules.content = g.rules.content ∧ w.form.result = g.result := by
  intro paths disk before broken after
  have isOk : (paths.openForm .standard before before).isOk = true := by decide +kernel
  cases opened : paths.openForm .standard before before with
  | error e => rw [opened] at isOk; cases isOk
  | ok form =>
    obtain ⟨⟨g, hg, rules, -, -, result⟩, -⟩ := follow_eq_openForm opened
      [.change broken, .reload .form, .change after, .reload .form, .reload .data]
    exact ⟨form, rfl, g, hg, rules, result⟩

end Followed

end FormRules
