import FormRules.Proofs.Form.Readings
import FormRules.Proofs.Form.Reachable

/-!
# Only an edit of the rules makes a reload read them

A form takes in its form file again.  The file counts as a list of fields with their
expressions, in order, and as overrides, in any order.  How it is written, and in what
order its overrides stand, makes no difference to either.

*The same list.*  The rules of the form stay as they are.  The overrides may still make
a pass, which reads nothing if the latest pass ran on the rules of the form.

*Another list.*  The rules get a new identity, so the pass reads them, and this pass
decides whether they are refused.  If they are not, the form now holds them, and the
overrides may make a second pass that reads nothing.  So there is one reading either
way (`reload_reads_edited_rules_once`).

After a reload that was done the form says what the file says.  The same file then
changes nothing, and makes no pass at all (`takeFile_of_holds`).

On which rules the latest pass ran is a matter of the history of a form, and it is
given with the history (`LastPass`).  Every reachable form has one.
-/

namespace FormRules.Form

/-! ## The latest pass -/

/-- The form was made with the registry and changed in any ways, done or refused, and its latest pass
ran on the expressions. -/
inductive LastPass (registry : Registry) : SharedExpressions → Form → Prop where
  /-- The first pass makes a form. -/
  | create {f : Form} {rules : SharedExpressions} {record : Record} {overrides : Overrides} :
      Form.create registry rules record overrides = .ok f → LastPass registry rules f
  /-- Every other pass changes it, or is refused. -/
  | change {f : Form} {last rules : SharedExpressions} (record : Record) (overrides : Overrides) :
      LastPass registry last f → f.cache.Agrees rules → rules.Agrees f.rules →
        LastPass registry rules (f.change rules record overrides).form

variable {registry : Registry} {f : Form} {last : SharedExpressions} {file : FormFile}
  {files : Files} {paths : WatchedPaths}

theorem LastPass.fresh (h : f.LastPass registry last) : f.Fresh registry := by
  induction h with
  | create created => exact fresh_create created
  | change record overrides _ agrees own fresh => exact fresh.change agrees own record overrides

/-- The cache holds what the latest pass ran on. -/
theorem LastPass.holds (h : f.LastPass registry last) : f.cache.holds last = true := by
  cases h with
  | create created =>
    obtain ⟨result, -, rfl⟩ := create_eq_ok_iff.1 created
    exact (RuleCache.empty.holds_fetch_iff last last).2 rfl
  | @change f _ _ record overrides _ _ _ =>
    rw [cache_change]
    exact (f.cache.holds_fetch_iff last last).2 rfl

/-- A pass on the rules of the form may come next. -/
theorem LastPass.change_own (h : f.LastPass registry last) (record : Record)
    (overrides : Overrides) :
    (f.change f.rules record overrides).form.LastPass registry f.rules :=
  .change record overrides h h.fresh.agrees fun _ => rfl

theorem LastPass.takeRules (h : f.LastPass registry last) (rules : Expressions) :
    ∃ last, (f.takeRules rules).form.LastPass registry last := by
  rw [Form.takeRules]
  split
  case isTrue => exact ⟨last, h⟩
  case isFalse =>
    exact ⟨f.freshRules rules,
      .change _ _ h (f.agrees_freshRules rules) (f.freshRules_agrees rules)⟩

theorem LastPass.takeOverrides (h : f.LastPass registry last) (overrides : Overrides) :
    ∃ last, (f.takeOverrides overrides).form.LastPass registry last := by
  rw [Form.takeOverrides]
  split
  case isTrue => exact ⟨last, h⟩
  case isFalse => exact ⟨f.rules, h.change_own _ _⟩

theorem LastPass.takeFile (h : f.LastPass registry last) (file : FormFile) :
    ∃ last, (f.takeFile file).form.LastPass registry last := by
  obtain ⟨first, hfirst⟩ := h.takeRules file.rules
  cases hfailure : (f.takeRules file.rules).failure with
  | some e =>
    rw [takeFile_of_refused hfailure]
    exact ⟨first, hfirst⟩
  | none =>
    rw [(takeFile_of_made hfailure).1]
    exact hfirst.takeOverrides file.messages

theorem LastPass.reload (h : f.LastPass registry last) (files : Files) (paths : WatchedPaths)
    (input : Input) : ∃ last, (f.reload files paths input).form.LastPass registry last := by
  cases input with
  | form =>
    cases hload : files.loadForm paths.form with
    | error e => rw [reload_form_of_error hload]; exact ⟨last, h⟩
    | ok file => rw [reload_form_of_ok hload]; exact h.takeFile file
  | data =>
    cases hload : files.loadRecord paths.data with
    | error e => rw [reload_data_of_error hload]; exact ⟨last, h⟩
    | ok record => rw [reload_data_of_ok hload]; exact ⟨f.rules, h.change_own _ _⟩

/-- A form that can be reached has had a latest pass. -/
theorem Reachable.exists_lastPass (reachable : f.Reachable registry) :
    ∃ last, f.LastPass registry last := by
  induction reachable with
  | @create f rules record overrides created => exact ⟨rules, .create created⟩
  | @setRules f rules _ agrees own ih =>
    obtain ⟨last, h⟩ := ih
    exact ⟨rules, .change _ _ h agrees own⟩
  | @setRecord f record _ ih =>
    obtain ⟨last, h⟩ := ih
    exact ⟨f.rules, h.change_own _ _⟩
  | @setOverrides f overrides _ ih =>
    obtain ⟨last, h⟩ := ih
    exact ⟨f.rules, h.change_own _ _⟩
  | reload files paths input _ ih =>
    obtain ⟨last, h⟩ := ih
    exact h.reload files paths input

/-! ## The two steps of a form file -/

theorem HoldsOwn.parses_takeOverrides (own : f.HoldsOwn) (overrides : Overrides) :
    (f.takeOverrides overrides).form.parses = f.parses := by
  rw [takeOverrides]
  split
  case isTrue => rfl
  case isFalse => exact own.parses_change _ _

theorem takeRules_of_same (same : f.rules.content = file.rules) :
    f.takeRules file.rules = ⟨f, none, []⟩ := by
  rw [takeRules, if_pos same]

/-- Rules with a new identity are read. -/
theorem parses_takeRules_of_other (other : f.rules.content ≠ file.rules) :
    (f.takeRules file.rules).form.parses = f.parses + 1 := by
  have hfresh : f.cache.identity? ≠ some (f.freshRules file.rules).identity := by
    intro h
    obtain ⟨source, hsource, hidentity⟩ := Option.map_eq_some_iff.1 h
    have hlt := cached_identity_lt_freshRules hsource file.rules
    omega
  rw [takeRules, if_neg other, setRules, parses_change, if_neg hfresh]

/-- Other rules that pass the check are held afterwards. -/
theorem Fresh.holdsOwn_takeRules (fresh : f.Fresh registry)
    (other : f.rules.content ≠ file.rules)
    (checked : registry.checkRules file.rules.parsed = .ok ()) :
    (f.takeRules file.rules).form.HoldsOwn := by
  rw [Form.takeRules, if_neg other]
  have agrees := f.agrees_freshRules file.rules
  exact holdsOwn_change_of_made (fresh.change_made agrees checked f.record f.overrides)

/-- A form file with the rules of the form is taken without a reading. -/
theorem Fresh.takeFile_of_same (fresh : f.Fresh registry) (own : f.HoldsOwn)
    (same : f.rules.content = file.rules) :
    (f.takeFile file).failure = none ∧ (f.takeFile file).form.rules = f.rules ∧
      (f.takeFile file).form.parses = f.parses := by
  have hrules := takeRules_of_same same
  obtain ⟨hform, hfailure⟩ := takeFile_of_made (congrArg Change.failure hrules)
  rw [hrules] at hform hfailure
  have made := fresh.takeOverrides_made file.messages
  rw [hform, hfailure]
  exact ⟨made.failure, made.rules, own.parses_takeOverrides file.messages⟩

/-- A form file with other rules is taken or refused with one reading. -/
theorem Fresh.parses_takeFile_of_other (fresh : f.Fresh registry)
    (other : f.rules.content ≠ file.rules) :
    (f.takeFile file).form.parses = f.parses + 1 := by
  cases hcheck : registry.checkRules file.rules.parsed with
  | error e =>
    have refused := fresh.takeRules_refused hcheck
    rw [takeFile_of_refused refused.failure, parses_takeRules_of_other other]
  | ok _ =>
    obtain ⟨shared, -, made⟩ := fresh.takeRules_made hcheck
    have own := fresh.holdsOwn_takeRules other hcheck
    rw [(takeFile_of_made made.failure).1, own.parses_takeOverrides,
      parses_takeRules_of_other other]

/-- A form that says what a file says is not changed by it. -/
theorem takeFile_of_holds {record : Record} (holds : f.Holds file record) :
    f.takeFile file = ⟨f, none, []⟩ := by
  have hoverrides : f.takeOverrides file.messages = ⟨f, none, []⟩ := by
    rw [takeOverrides, if_pos holds.overrides]
  rw [takeFile, takeRules_of_same holds.rules]
  show { f.takeOverrides file.messages with log := [] ++ (f.takeOverrides file.messages).log } = _
  rw [hoverrides]
  rfl

theorem reload_form_of_holds {record : Record} (loaded : files.loadForm paths.form = .ok file)
    (holds : f.Holds file record) : f.reload files paths .form = ⟨f, none, []⟩ := by
  rw [reload_form_of_ok loaded, takeFile_of_holds holds]
  rfl

/-! ## Reloads -/

/-- A form whose latest pass ran on its rules takes in a form file.  If the file lists the expressions
of the form in their order, that is done, the form keeps its shared rules and reads nothing.  If the
list is another one, it is read once, whether the form takes or refuses it.  After a reload that is
done, another one from the same file changes nothing and logs nothing. -/
theorem reload_reads_edited_rules_once (latest : f.LastPass registry f.rules)
    (loaded : files.loadForm paths.form = .ok file) :
    let r := f.reload files paths .form
    (file.rules.entries = f.rules.content.entries →
      r.failure = none ∧ r.form.rules = f.rules ∧ r.form.parses = f.parses) ∧
    (file.rules.entries ≠ f.rules.content.entries →
      r.form.parses = f.parses + 1 ∧
        match registry.checkRules file.rules.parsed with
        | .ok () => r.failure = none ∧ r.form.rules.content = file.rules
        | .error e => r.failure = some (.rules e) ∧ r.form.Keeps f) ∧
    (r.failure = none → ∀ again : Files, again.loadForm paths.form = .ok file →
      r.form.reload again paths .form = ⟨r.form, none, []⟩) := by
  intro r
  have fresh := latest.fresh
  have hr : r = ⟨(f.takeFile file).form, (f.takeFile file).failure.map .rules,
      (f.takeFile file).log⟩ := reload_form_of_ok loaded
  refine ⟨?_, ?_, ?_⟩
  · intro hentries
    have same : f.rules.content = file.rules := (OrderedMap.ext hentries).symm
    obtain ⟨hfailure, hrules, hparses⟩ := fresh.takeFile_of_same latest.holds same
    rw [hr]
    exact ⟨by rw [hfailure]; rfl, hrules, hparses⟩
  · intro hentries
    have other : f.rules.content ≠ file.rules := fun h => hentries (by rw [h])
    rw [hr]
    refine ⟨fresh.parses_takeFile_of_other other, ?_⟩
    cases hcheck : registry.checkRules file.rules.parsed with
    | error e =>
      have refused := fresh.takeFile_refused hcheck
      exact ⟨by rw [refused.failure]; rfl, refused.kept⟩
    | ok _ =>
      obtain ⟨hfailure, hrules, -⟩ := fresh.takeFile_made hcheck
      exact ⟨by rw [hfailure]; rfl, hrules⟩
  · intro done again hagain
    obtain ⟨file', loaded', holds⟩ := fresh.reload_form done
    rw [loaded] at loaded'
    cases loaded'
    exact reload_form_of_holds hagain holds

/-- The same rules with a comment and a message, taken in twice, and rules that are refused. -/
theorem reload_reads_edited_rules_once_refused :
    let paths : WatchedPaths := ⟨⟨"form"⟩, ⟨"data"⟩⟩
    let disk : String → Files := fun form => ⟨some, fun _ => some form⟩
    let same := disk "# kept\nrules.name = \"required|min:3\"\nmessages.required = \"Needed\""
    let other := disk "rules.name = \"slug\""
    let rules : Expressions := .ofList [("name", "required|min:3")]
    ∃ f : Form,
      let kept := f.reload same paths .form
      let refused := f.reload other paths .form
      f.LastPass .standard f.rules ∧ f.rules.content = rules ∧
        (kept.failure = none ∧ kept.form.rules = f.rules ∧ kept.form.parses = f.parses) ∧
        kept.form.reload same paths .form = ⟨kept.form, none, []⟩ ∧
        refused.form.parses = f.parses + 1 ∧
        refused.failure = some (.rules ⟨"name", "slug"⟩) := by
  intro paths disk same other rules
  let shared : SharedExpressions := ⟨0, rules⟩
  have checked : Registry.standard.checkRules shared.content.parsed = .ok () :=
    Registry.checkRules_eq_ok_of_contains _ _ (by decide)
  have unknown : Registry.standard.checkRules (Expressions.parsed (.ofList [("name", "slug")])) =
      .error ⟨"name", "slug"⟩ := by
    rfl
  have hsame : same.loadForm paths.form =
      .ok ⟨.ofList [("name", "required|min:3")], .ofList [("required", .everywhere "Needed")]⟩ := by
    decide +kernel
  have hother : other.loadForm paths.form = .ok ⟨.ofList [("name", "slug")], .empty⟩ := by
    decide +kernel
  obtain ⟨f, created⟩ := exists_create_eq_ok checked .empty .empty
  have hrules : f.rules = shared := by
    obtain ⟨result, -, rfl⟩ := create_eq_ok_iff.1 created
    rfl
  have latest : f.LastPass .standard f.rules := by
    rw [hrules]
    exact .create created
  obtain ⟨kept, -, again⟩ := reload_reads_edited_rules_once latest hsame
  obtain ⟨-, read, -⟩ := reload_reads_edited_rules_once latest hother
  obtain ⟨hfailure, hshared, hparses⟩ := kept (by rw [hrules])
  obtain ⟨hread, hcheck⟩ := read (by rw [hrules]; decide)
  rw [unknown] at hcheck
  exact ⟨f, latest, by rw [hrules], ⟨hfailure, hshared, hparses⟩, again hfailure same hsame,
    hread, hcheck.1⟩

end FormRules.Form
