import FormRules.Proofs.Form
import FormRules.Watch.Reload

/-!
# What taking in a file does

A file is *accepted* if it can be loaded and, for a form file, if its rules pass
the check.  Whether it is depends on the file and on the registry, but not on the
form (`Files.acceptForm`, `Files.acceptRecord`).

A fresh form takes in a file that is accepted, and then says what the file says:
the rules in their order, the overrides in any.  From a file that is refused it
keeps nothing, although a form file is taken in two steps.  The second step
replaces the overrides only, so it is always made, and the first one is either
made or refused as a whole (`Form.Fresh.reload_form_cases`,
`Form.Fresh.reload_data_cases`).

Rules that are taken get an identity that is larger than every identity in sight,
so they agree with the rules of the form and with those in the cache.
-/

namespace FormRules

namespace Files

/-- The form file at a path, or why a form with the registry refuses it. -/
def acceptForm (files : Files) (registry : Registry) (path : Path) :
    Except ReloadError FormFile := do
  let file ← (files.loadForm path).mapError .load
  ((registry.checkRules file.rules.parsed).mapError .rules).map fun _ => file

/-- The record in the data file at a path, or why a form refuses it. -/
def acceptRecord (files : Files) (path : Path) : Except ReloadError Record :=
  (files.loadRecord path).mapError .load

variable {files : Files} {path : Path}

theorem acceptForm_of_error {e : LoadError} (h : files.loadForm path = .error e)
    (registry : Registry) : files.acceptForm registry path = .error (.load e) := by
  rw [acceptForm, h]
  rfl

theorem acceptForm_of_ok {file : FormFile} (h : files.loadForm path = .ok file)
    (registry : Registry) : files.acceptForm registry path =
      ((registry.checkRules file.rules.parsed).mapError .rules).map fun _ => file := by
  rw [acceptForm, h]
  rfl

theorem loadForm_of_acceptForm {registry : Registry} {file : FormFile}
    (h : files.acceptForm registry path = .ok file) : files.loadForm path = .ok file := by
  cases hload : files.loadForm path with
  | error e => rw [acceptForm_of_error hload] at h; cases h
  | ok loaded =>
    rw [acceptForm_of_ok hload] at h
    cases hcheck : registry.checkRules loaded.rules.parsed with
    | error e => rw [hcheck] at h; cases h
    | ok _ => rw [hcheck] at h; cases h; rfl

theorem loadRecord_of_acceptRecord {record : Record}
    (h : files.acceptRecord path = .ok record) : files.loadRecord path = .ok record := by
  cases hload : files.loadRecord path with
  | error e => rw [acceptRecord, hload] at h; cases h
  | ok loaded => rw [acceptRecord, hload] at h; cases h; rfl

end Files

/-- What overrides become when a file brings others: they stay if they say the same. -/
def Overrides.replacedBy (own overrides : Overrides) : Overrides :=
  if own.same overrides then own else overrides

theorem Overrides.same_replacedBy (own overrides : Overrides) :
    (own.replacedBy overrides).same overrides = true := by
  rw [replacedBy]
  split
  case isTrue h => exact h
  case isFalse => exact overrides.same_refl

namespace Form

/-- The form has the rules of a form file, its overrides in some order, and a record. -/
structure Holds (f : Form) (file : FormFile) (record : Record) : Prop where
  rules : f.rules.content = file.rules
  overrides : f.overrides.same file.messages = true
  record : f.record = record

variable {registry : Registry} {f : Form}

/-- The result of a fresh form is the one of the file and the record that it holds. -/
theorem Fresh.evaluate_of_holds (fresh : f.Fresh registry) {file : FormFile} {record : Record}
    (holds : f.Holds file record) :
    registry.evaluate record file.rules.parsed file.messages = .ok f.result := by
  have h := fresh.current
  rwa [holds.rules, holds.record, Registry.evaluate_eq_of_same holds.overrides] at h

/-- A new form holds what it is made of. -/
theorem holds_create {identity : Nat} {file : FormFile} {record : Record}
    (h : create registry ⟨identity, file.rules⟩ record file.messages = .ok f) :
    f.Holds file record := by
  obtain ⟨result, -, rfl⟩ := create_eq_ok_iff.1 h
  exact ⟨rfl, file.messages.same_refl, rfl⟩

/-- A form that took overrides of a file says what the file says. -/
theorem Holds.of_replacedBy {file : FormFile} {record : Record} {own : Overrides}
    (hrules : f.rules.content = file.rules) (hrecord : f.record = record)
    (hoverrides : f.overrides = own.replacedBy file.messages) : f.Holds file record :=
  ⟨hrules, hoverrides ▸ own.same_replacedBy file.messages, hrecord⟩

theorem Keeps.refl (f : Form) : f.Keeps f := ⟨rfl, rfl, rfl, rfl⟩

theorem Keeps.holds {g : Form} (kept : g.Keeps f) {file : FormFile} {record : Record}
    (holds : f.Holds file record) : g.Holds file record where
  rules := by rw [kept.rules, holds.rules]
  overrides := by rw [kept.overrides, holds.overrides]
  record := by rw [kept.record, holds.record]

/-! ## New identities -/

theorem identity_lt_freshRules (f : Form) (content : Expressions) :
    f.rules.identity < (f.freshRules content).identity := by
  simp only [freshRules]
  omega

theorem cached_identity_lt_freshRules {source : SharedExpressions}
    (h : f.cache.source = some source) (content : Expressions) :
    source.identity < (f.freshRules content).identity := by
  simp only [freshRules, h, Option.map_some, Option.getD_some]
  omega

theorem agrees_freshRules (f : Form) (content : Expressions) :
    f.cache.Agrees (f.freshRules content) := by
  intro source hsource hidentity
  have h := cached_identity_lt_freshRules hsource content
  omega

theorem freshRules_agrees (f : Form) (content : Expressions) :
    (f.freshRules content).Agrees f.rules := by
  intro hidentity
  have h := f.identity_lt_freshRules content
  omega

/-! ## The two steps of a form file -/

/-- Rules are refused if their check fails. -/
theorem Fresh.takeRules_refused (fresh : f.Fresh registry) {rules : Expressions}
    {e : UnknownValidator} (checked : registry.checkRules rules.parsed = .error e) :
    (f.takeRules rules).Refused f e := by
  rw [takeRules]
  split
  case isTrue h =>
    -- The form has these rules, so they have passed the check before.
    rw [← h, fresh.checkRules] at checked
    cases checked
  case isFalse => exact fresh.change_refused (f.agrees_freshRules rules) checked _ _

/-- Rules are taken if they pass the check, whether or not they are the ones of the form. -/
theorem Fresh.takeRules_made (fresh : f.Fresh registry) {rules : Expressions}
    (checked : registry.checkRules rules.parsed = .ok ()) :
    ∃ shared, shared.content = rules ∧ (f.takeRules rules).Made shared f.record f.overrides := by
  rw [takeRules]
  split
  case isTrue h => exact ⟨f.rules, h, rfl, rfl, rfl, rfl⟩
  case isFalse =>
    exact ⟨f.freshRules rules, rfl, fresh.change_made (f.agrees_freshRules rules) checked _ _⟩

theorem Fresh.takeRules (fresh : f.Fresh registry) (rules : Expressions) :
    (f.takeRules rules).form.Fresh registry := by
  rw [Form.takeRules]
  split
  · exact fresh
  · exact fresh.change (f.agrees_freshRules rules) (f.freshRules_agrees rules) _ _

/-- Overrides are always taken, unless those of the form say the same. -/
theorem Fresh.takeOverrides_made (fresh : f.Fresh registry) (overrides : Overrides) :
    (f.takeOverrides overrides).Made f.rules f.record (f.overrides.replacedBy overrides) := by
  rw [takeOverrides, Overrides.replacedBy]
  split
  case isTrue => exact ⟨rfl, rfl, rfl, rfl⟩
  case isFalse => exact fresh.change_own_made _ _

theorem Fresh.takeOverrides (fresh : f.Fresh registry) (overrides : Overrides) :
    (f.takeOverrides overrides).form.Fresh registry := by
  rw [Form.takeOverrides]
  split
  · exact fresh
  · exact fresh.change_own _ _

/-! ## Form files -/

theorem takeFile_of_refused {file : FormFile} {e : UnknownValidator}
    (h : (f.takeRules file.rules).failure = some e) : f.takeFile file = f.takeRules file.rules := by
  rw [takeFile, h]

theorem takeFile_of_made {file : FormFile} (h : (f.takeRules file.rules).failure = none) :
    (f.takeFile file).form =
        ((f.takeRules file.rules).form.takeOverrides file.messages).form ∧
      (f.takeFile file).failure =
        ((f.takeRules file.rules).form.takeOverrides file.messages).failure := by
  rw [takeFile, h]
  exact ⟨rfl, rfl⟩

/-- A form file whose rules fail the check is refused as a whole. -/
theorem Fresh.takeFile_refused (fresh : f.Fresh registry) {file : FormFile} {e : UnknownValidator}
    (checked : registry.checkRules file.rules.parsed = .error e) :
    (f.takeFile file).Refused f e := by
  have refused := fresh.takeRules_refused checked
  rwa [takeFile_of_refused refused.failure]

/-- A form file whose rules pass the check is taken as a whole. -/
theorem Fresh.takeFile_made (fresh : f.Fresh registry) {file : FormFile}
    (checked : registry.checkRules file.rules.parsed = .ok ()) :
    (f.takeFile file).failure = none ∧ (f.takeFile file).form.rules.content = file.rules ∧
      (f.takeFile file).form.record = f.record ∧
      (f.takeFile file).form.overrides = f.overrides.replacedBy file.messages := by
  obtain ⟨shared, hshared, made⟩ := fresh.takeRules_made checked
  -- The first step left a fresh form, so the second one cannot be refused.
  obtain ⟨hform, hfailure⟩ := takeFile_of_made made.failure
  have second := (fresh.takeRules file.rules).takeOverrides_made file.messages
  refine ⟨?_, ?_, ?_, ?_⟩
  · rw [hfailure, second.failure]
  · rw [hform, second.rules, made.rules, hshared]
  · rw [hform, second.record, made.record]
  · rw [hform, second.overrides, made.overrides]

theorem Fresh.takeFile (fresh : f.Fresh registry) (file : FormFile) :
    (f.takeFile file).form.Fresh registry := by
  have first := fresh.takeRules file.rules
  cases hfailure : (f.takeRules file.rules).failure with
  | some e =>
    rw [takeFile_of_refused hfailure]
    exact first
  | none =>
    rw [(takeFile_of_made hfailure).1]
    exact first.takeOverrides file.messages

/-! ## Reloads -/

variable {files : Files} {paths : WatchedPaths}

theorem reload_form_of_error {e : LoadError} (h : files.loadForm paths.form = .error e) :
    f.reload files paths .form = ⟨f, some (.load e), []⟩ := by
  rw [reload, takeInput, h]
  rfl

theorem reload_form_of_ok {file : FormFile} (h : files.loadForm paths.form = .ok file) :
    f.reload files paths .form =
      ⟨(f.takeFile file).form, (f.takeFile file).failure.map .rules, (f.takeFile file).log⟩ := by
  rw [reload, takeInput, h]
  rfl

theorem reload_data_of_error {e : LoadError} (h : files.loadRecord paths.data = .error e) :
    f.reload files paths .data = ⟨f, some (.load e), []⟩ := by
  rw [reload, takeInput, h]
  rfl

theorem reload_data_of_ok {record : Record} (h : files.loadRecord paths.data = .ok record) :
    f.reload files paths .data =
      ⟨(f.setRecord record).form, (f.setRecord record).failure.map .rules,
        (f.setRecord record).log⟩ := by
  rw [reload, takeInput, h]
  rfl

theorem Fresh.reload (fresh : f.Fresh registry) (files : Files) (paths : WatchedPaths)
    (input : Input) : (f.reload files paths input).form.Fresh registry := by
  cases input with
  | form =>
    cases h : files.loadForm paths.form with
    | error e => rw [reload_form_of_error h]; exact fresh
    | ok file => rw [reload_form_of_ok h]; exact fresh.takeFile file
  | data =>
    cases h : files.loadRecord paths.data with
    | error e => rw [reload_data_of_error h]; exact fresh
    | ok record => rw [reload_data_of_ok h]; exact fresh.change_own _ _

/-- A form file is refused and leaves the form, or it is accepted and replaces the rules and the
overrides. -/
theorem Fresh.reload_form_cases (fresh : f.Fresh registry) (files : Files)
    (paths : WatchedPaths) :
    (∃ e, files.acceptForm registry paths.form = .error e ∧
      (f.reload files paths .form).failure = some e ∧
      (f.reload files paths .form).form.Keeps f) ∨
    (∃ file, files.acceptForm registry paths.form = .ok file ∧
      (f.reload files paths .form).failure = none ∧
      (f.reload files paths .form).form.rules.content = file.rules ∧
      (f.reload files paths .form).form.record = f.record ∧
      (f.reload files paths .form).form.overrides = f.overrides.replacedBy file.messages) := by
  cases hload : files.loadForm paths.form with
  | error e =>
    rw [Files.acceptForm_of_error hload, reload_form_of_error hload]
    exact .inl ⟨_, rfl, rfl, Keeps.refl f⟩
  | ok file =>
    rw [Files.acceptForm_of_ok hload, reload_form_of_ok hload]
    cases hcheck : registry.checkRules file.rules.parsed with
    | error e =>
      have refused := fresh.takeFile_refused hcheck
      exact .inl ⟨_, rfl, by rw [refused.failure]; rfl, refused.kept⟩
    | ok _ =>
      obtain ⟨hfailure, taken⟩ := fresh.takeFile_made hcheck
      exact .inr ⟨file, rfl, by rw [hfailure]; rfl, taken⟩

/-- A data file is refused and leaves the form, or it is accepted and replaces the record. -/
theorem Fresh.reload_data_cases (fresh : f.Fresh registry) (files : Files)
    (paths : WatchedPaths) :
    (∃ e, files.acceptRecord paths.data = .error e ∧
      (f.reload files paths .data).failure = some e ∧
      (f.reload files paths .data).form.Keeps f) ∨
    (∃ record, files.acceptRecord paths.data = .ok record ∧
      (f.reload files paths .data).failure = none ∧
      (f.reload files paths .data).form.rules = f.rules ∧
      (f.reload files paths .data).form.overrides = f.overrides ∧
      (f.reload files paths .data).form.record = record) := by
  cases hload : files.loadRecord paths.data with
  | error e =>
    rw [Files.acceptRecord, hload, reload_data_of_error hload]
    exact .inl ⟨_, rfl, rfl, Keeps.refl f⟩
  | ok record =>
    rw [Files.acceptRecord, hload, reload_data_of_ok hload]
    have made : (f.setRecord record).Made f.rules record f.overrides :=
      fresh.change_own_made record f.overrides
    exact .inr ⟨record, rfl, by rw [made.failure]; rfl, made.rules, made.overrides, made.record⟩

/-- A reload that is not done leaves the inputs and the result. -/
theorem Fresh.reload_kept (fresh : f.Fresh registry) {input : Input}
    (failed : (f.reload files paths input).failure ≠ none) :
    (f.reload files paths input).form.Keeps f := by
  cases input with
  | form =>
    rcases fresh.reload_form_cases files paths with ⟨-, -, -, kept⟩ | ⟨-, -, done, -⟩
    · exact kept
    · exact absurd done failed
  | data =>
    rcases fresh.reload_data_cases files paths with ⟨-, -, -, kept⟩ | ⟨-, -, done, -⟩
    · exact kept
    · exact absurd done failed

/-- A reload of the form file that is done leaves the form saying what the file says. -/
theorem Fresh.reload_form (fresh : f.Fresh registry)
    (done : (f.reload files paths .form).failure = none) :
    ∃ file, files.loadForm paths.form = .ok file ∧
      (f.reload files paths .form).form.Holds file f.record := by
  rcases fresh.reload_form_cases files paths with
    ⟨e, -, failed, -⟩ | ⟨file, accepted, -, hrules, hrecord, hoverrides⟩
  · rw [failed] at done
    cases done
  · exact ⟨file, Files.loadForm_of_acceptForm accepted,
      .of_replacedBy hrules hrecord hoverrides⟩

/-- A reload of the data file that is done replaces the record by the one of the file. -/
theorem Fresh.reload_data (fresh : f.Fresh registry)
    (done : (f.reload files paths .data).failure = none) :
    ∃ record, files.loadRecord paths.data = .ok record ∧
      (f.reload files paths .data).form.rules = f.rules ∧
      (f.reload files paths .data).form.overrides = f.overrides ∧
      (f.reload files paths .data).form.record = record := by
  rcases fresh.reload_data_cases files paths with ⟨e, -, failed, -⟩ | ⟨record, accepted, -, kept⟩
  · rw [failed] at done
    cases done
  · exact ⟨record, Files.loadRecord_of_acceptRecord accepted, kept⟩

end Form

end FormRules
