import FormRules.Proofs.Evaluation.Verdict
import FormRules.Proofs.Form
import FormRules.Proofs.Loading

/-!
# The exit status of a run

A run reads a form file and a record.  If it cannot, its exit status is 1.  If it
can, the exit status is that of evaluating them (`Settings.exit_run_of_inputs`):
0 for a valid result, and 1 for any other and for an error.

Catalogs and overrides supply messages, which have no part in how an evaluation
ends.  So they have none in the exit status either, as long as the form file can
be read (`evaluation_and_exit_independent_of_messages`).
-/

namespace FormRules

/-- The exit status of an evaluation. -/
def exitStatus : Except UnknownValidator Result → Nat
  | .ok r => if r.valid then 0 else 1
  | .error _ => 1

theorem SameEnding.exitStatus_eq {r s : Except UnknownValidator Result} (h : SameEnding r s) :
    exitStatus r = exitStatus s := by
  cases h with
  | error e => rfl
  | ok same => rw [exitStatus, exitStatus, same.valid]

namespace Settings

variable {s : Settings} {files : Files}

theorem exit_run_of_error {e : LoadError} (h : s.inputs files = .error e) :
    (s.run files).exit = 1 := by
  rw [run, openForm_of_error h]

theorem exit_run_of_inputs {i : Inputs} (h : s.inputs files = .ok i) :
    (s.run files).exit =
      exitStatus ((s.registry files).evaluate i.record i.file.rules.parsed i.file.messages) := by
  -- A form starts with an empty cache, from which a pass takes the rules as they are parsed.
  rw [run, openForm_of_ok h, create, Form.create,
    RuleCache.pass_eq RuleCache.sound_empty (RuleCache.agrees_empty _)]
  cases (s.registry files).evaluate i.record i.file.rules.parsed i.file.messages <;> rfl

end Settings

/-! ## Runs that differ in messages only -/

/-- Two states of the file system have the same rules in a form file and the same record in a data
file.  The overrides in the form file are left open, and so is every other file. -/
structure SameQuestion (form data : Path) (files otherFiles : Files) : Prop where
  rules : ∃ file otherFile, files.loadForm form = .ok file ∧
    otherFiles.loadForm form = .ok otherFile ∧ file.rules = otherFile.rules
  record : files.loadRecord data = otherFiles.loadRecord data

variable {files otherFiles : Files}

theorem SameQuestion.exit_run_settings {s t : Settings} (hform : t.form = s.form)
    (hdata : t.data = s.data) (same : SameQuestion s.form s.data files otherFiles) :
    (s.run files).exit = (t.run otherFiles).exit := by
  obtain ⟨file, otherFile, hfile, hother, hrules⟩ := same.rules
  rw [← hform] at hother
  cases hrecord : files.loadRecord s.data with
  | error e =>
    have hotherRecord : otherFiles.loadRecord t.data = .error e := by
      rw [hdata, ← same.record, hrecord]
    rw [Settings.exit_run_of_error (Settings.inputs_eq_error hfile hrecord),
      Settings.exit_run_of_error (Settings.inputs_eq_error hother hotherRecord)]
  | ok record =>
    have hotherRecord : otherFiles.loadRecord t.data = .ok record := by
      rw [hdata, ← same.record, hrecord]
    rw [Settings.exit_run_of_inputs (Settings.inputs_eq_ok hfile hrecord),
      Settings.exit_run_of_inputs (Settings.inputs_eq_ok hother hotherRecord), hrules]
    -- The two registries differ in their catalogs only.
    exact ((Registry.sameChecks_withBuiltins _ _).evaluate record _ _ _).exitStatus_eq

theorem SameQuestion.exit_run {line otherLine : CommandLine} (hform : otherLine.form = line.form)
    (hdata : otherLine.data = line.data)
    (same : SameQuestion line.form line.data files otherFiles) (place otherPlace : Surroundings) :
    (line.run place files).exit = (otherLine.run otherPlace otherFiles).exit := by
  rw [CommandLine.run, CommandLine.run, Settings.ofCommandLine, Settings.ofCommandLine, hform,
    hdata]
  by_cases hsame : line.form.same line.data = true
  · rw [if_pos hsame, if_pos hsame]
  · rw [if_neg hsame, if_neg hsame]
    exact same.exit_run_settings rfl rfl

/-- Evaluating with the same checks ends in the same way, with the same verdict or the same error,
whatever the templates and the overrides are.  Registries of built-in validators have the same
checks.  So neither a catalog nor an override changes the exit status of a run whose form file can
be read. -/
theorem evaluation_and_exit_independent_of_messages :
    (∀ {registry other : Registry}, registry.SameChecks other →
      ∀ record ruleSet overrides otherOverrides,
        SameEnding (registry.evaluate record ruleSet overrides)
          (other.evaluate record ruleSet otherOverrides)) ∧
    (∀ catalog otherCatalog : Catalog,
      (Registry.withBuiltins catalog).SameChecks (.withBuiltins otherCatalog)) ∧
    ∀ {line otherLine : CommandLine} {files otherFiles : Files}, otherLine.form = line.form →
      otherLine.data = line.data → SameQuestion line.form line.data files otherFiles →
        ∀ place otherPlace,
          (line.run place files).exit = (otherLine.run otherPlace otherFiles).exit :=
  ⟨fun same => same.evaluate, Registry.sameChecks_withBuiltins,
    fun hform hdata same => same.exit_run hform hdata⟩

/-- Empty messages from an override and from a catalog, and an override that is shaped for a
field. -/
theorem evaluation_and_exit_independent_of_messages_empty :
    let catalog : Catalog := Catalog.builtin.set "required" ""
    let overrides : Overrides := .ofList [("min", .everywhere ""), ("name", .inField .empty)]
    let ruleSet : RuleSet := Expressions.parsed (.ofList [("name", "required|min:3|min:3")])
    let line : CommandLine := ⟨⟨"form"⟩, ⟨"data"⟩, .text, false, none, "warn"⟩
    let otherLine : CommandLine := { line with catalogDir := some ⟨"cat"⟩ }
    let disk : String → String → Files := fun form catalog =>
      ⟨some, fun steps =>
        if steps = line.form.steps then some form
        else if steps = line.data.steps then some "\x7b\x7d"
        else if steps = (Files.catalogPath ⟨"cat"⟩).steps then some catalog else none⟩
    let files := disk "rules.name = \"required\"" ""
    let otherFiles := disk "rules.name = \"required\"\nmessages.min = \"\""
      "messages.required = \"\""
    let place : Surroundings := ⟨none, ⟨"/"⟩⟩
    SameEnding (Registry.standard.evaluate .empty ruleSet .empty)
        ((Registry.withBuiltins catalog).evaluate .empty ruleSet overrides) ∧
      SameQuestion line.form line.data files otherFiles ∧
      (line.run place files).exit = (otherLine.run place otherFiles).exit := by
  intro catalog overrides ruleSet line otherLine disk files otherFiles place
  have same : SameQuestion line.form line.data files otherFiles := by
    refine ⟨⟨⟨.ofList [("name", "required")], .empty⟩,
      ⟨.ofList [("name", "required")], .ofList [("min", .everywhere "")]⟩, ?_, ?_, rfl⟩, ?_⟩
    · decide +kernel
    · decide +kernel
    · decide +kernel
  have hform : otherLine.form = line.form := rfl
  have hdata : otherLine.data = line.data := rfl
  obtain ⟨evaluation, checks, exit⟩ := evaluation_and_exit_independent_of_messages
  exact ⟨evaluation (checks .builtin catalog) .empty ruleSet .empty overrides, same,
    exit hform hdata same place place⟩

end FormRules
