import FormRules.Proofs.Watch.Mention
import FormRules.Proofs.Watch.Reload

/-!
# What a batch changes

A batch *renews* an input if one of its events is the creation or the modification
of the file of the input (`Batch.Renews`).  These are the inputs that the form
takes in, each once.  Events of any other kind, or on any other path, are *idle*:
they have no part in the answer to the batch (`Form.answer_keep`).

A form *shows* a form file and a record if it is up to date with them
(`Form.Shows`).  After a batch it shows what the renewed inputs hold, as far as
that is accepted, and what it showed before for the rest
(`Form.Shows.reloadAll`).  Every input that is refused leaves one line in the log
that says so, and there are no other such lines.
-/

namespace FormRules

/-! ## Renewed inputs -/

namespace WatchEvent

/-- The event tells that an input may have new content. -/
inductive Renews (paths : WatchedPaths) (input : Input) : WatchEvent → Prop where
  /-- A file of the input was created or modified. -/
  | files {event : FileEvent} {ps : List Path} {p : Path} : event = .created ∨ event = .modified →
      p ∈ ps → paths.classify p = some input → Renews paths input (.files event ps)

/-- The event is not about the content of an input. -/
inductive Idle (paths : WatchedPaths) : WatchEvent → Prop where
  /-- Files were removed. -/
  | removed {ps : List Path} : Idle paths (.files .removed ps)
  /-- Something happened to files that does not give them new content. -/
  | other {ps : List Path} : Idle paths (.files .other ps)
  /-- No path is the one of an input. -/
  | elsewhere {event : FileEvent} {ps : List Path} : (∀ p ∈ ps, paths.classify p = none) →
      Idle paths (.files event ps)

variable {paths : WatchedPaths} {input : Input} {e : WatchEvent}

theorem mem_inputs_iff : input ∈ e.inputs paths ↔ e.Renews paths input := by
  constructor
  · intro h
    cases e with
    | failed text => cases h
    | files event ps =>
      rw [inputs] at h
      split at h
      · next hrenews =>
        obtain ⟨p, hp, hclass⟩ := List.mem_filterMap.1 h
        refine .files ?_ hp hclass
        cases event with
        | created => exact .inl rfl
        | modified => exact .inr rfl
        | removed | other => cases hrenews
      · cases h
  · rintro (@⟨event, ps, p, hevent, hp, hclass⟩)
    have hrenews : event.renews = true := by rcases hevent with rfl | rfl <;> rfl
    rw [inputs, if_pos hrenews]
    exact List.mem_filterMap.2 ⟨p, hp, hclass⟩

instance : Decidable (e.Renews paths input) := decidable_of_iff _ mem_inputs_iff

theorem Idle.inputs_eq (h : e.Idle paths) : e.inputs paths = [] := by
  cases h with
  | removed | other => rfl
  | elsewhere h =>
    rw [inputs]
    split
    · exact List.filterMap_eq_nil_iff.2 h
    · rfl

theorem Idle.log_eq (h : e.Idle paths) : e.log = [] := by cases h <;> rfl

end WatchEvent

namespace Batch

/-- An event of the batch tells that the input may have new content. -/
def Renews (b : Batch) (paths : WatchedPaths) (input : Input) : Prop :=
  ∃ e ∈ b.events, e.Renews paths input

variable {b : Batch} {paths : WatchedPaths} {input : Input}

instance : Decidable (b.Renews paths input) :=
  inferInstanceAs (Decidable (∃ e ∈ b.events, e.Renews paths input))

theorem mem_mentions_iff : input ∈ b.mentions paths ↔ b.Renews paths input := by
  rw [mentions, List.mem_flatMap, Renews]
  simp only [WatchEvent.mem_inputs_iff]

theorem mem_inputs_iff : input ∈ b.inputs paths ↔ b.Renews paths input :=
  mem_distinctInputs_iff.trans mem_mentions_iff

/-- The inputs of a batch are the renewed ones, each once, in some order. -/
theorem perm_inputs (b : Batch) (paths : WatchedPaths) :
    (b.inputs paths).Perm ([.form, .data].filter fun input => b.Renews paths input) := by
  refine (perm_distinctInputs (b.mentions paths)).trans (.of_eq ?_)
  exact List.filter_congr fun input _ => decide_eq_decide.2 mem_mentions_iff

theorem inputs_eq_nil_iff : b.inputs paths = [] ↔ ∀ input, ¬ b.Renews paths input := by
  rw [List.eq_nil_iff_forall_not_mem]
  simp only [mem_inputs_iff]

/-- The batch with some of its events only. -/
def keep (p : WatchEvent → Bool) (b : Batch) : Batch := { b with events := b.events.filter p }

/-- Events that give nothing can be left out. -/
theorem flatMap_events_keep {α : Type} {p : WatchEvent → Bool} {g : WatchEvent → List α}
    (h : ∀ e ∈ b.events, p e = false → g e = []) :
    (b.keep p).events.flatMap g = b.events.flatMap g := by
  rw [keep]
  generalize b.events = events at h
  induction events with
  | nil => rfl
  | cons e rest ih =>
    have hrest := ih fun e he => h e (List.mem_cons_of_mem _ he)
    cases hp : p e with
    | true => rw [List.filter_cons_of_pos hp, List.flatMap_cons, List.flatMap_cons, hrest]
    | false =>
      rw [List.filter_cons_of_neg (by simp [hp]), List.flatMap_cons, h e List.mem_cons_self hp,
        List.nil_append, hrest]

end Batch

/-! ## Answers -/

namespace Form

variable {f : Form} {b : Batch} {paths : WatchedPaths}

theorem answer_of_quiet (quiet : ∀ input, ¬ b.Renews paths input) :
    f.answer paths b = ⟨f, none, b.events.flatMap WatchEvent.log⟩ := by
  rw [answer, Batch.inputs_eq_nil_iff.2 quiet]

theorem answer_of_renews {input : Input} (renews : b.Renews paths input) :
    f.answer paths b =
      ⟨(f.reloadAll b.files paths (b.inputs paths)).1,
        some (f.reloadAll b.files paths (b.inputs paths)).1.result,
        b.events.flatMap WatchEvent.log ++ (f.reloadAll b.files paths (b.inputs paths)).2⟩ := by
  rw [answer]
  cases hinputs : b.inputs paths with
  | nil => exact absurd renews (Batch.inputs_eq_nil_iff.1 hinputs input)
  | cons first rest => rfl

/-- Idle events have no part in the answer to a batch. -/
theorem answer_keep (f : Form) {p : WatchEvent → Bool}
    (h : ∀ e ∈ b.events, p e = false → e.Idle paths) :
    f.answer paths (b.keep p) = f.answer paths b := by
  have hinputs : (b.keep p).inputs paths = b.inputs paths := by
    rw [Batch.inputs, Batch.flatMap_events_keep fun e he hp => (h e he hp).inputs_eq, Batch.inputs]
  have hlog : (b.keep p).events.flatMap WatchEvent.log = b.events.flatMap WatchEvent.log :=
    Batch.flatMap_events_keep fun e he hp => (h e he hp).log_eq
  rw [answer, answer, hinputs, hlog]
  rfl

/-- A batch of idle events has no effect. -/
theorem answer_of_idle (f : Form) (h : ∀ e ∈ b.events, e.Idle paths) :
    f.answer paths b = ⟨f, none, []⟩ := by
  have hkeep : (b.keep fun _ => false).events = [] := List.filter_false _
  rw [← f.answer_keep fun e he (_ : false = false) => h e he, answer_of_quiet, hkeep,
    List.flatMap_nil]
  rintro input ⟨e, he, -⟩
  rw [hkeep] at he
  cases he

end Form

/-! ## Lines about refused files -/

/-- The log entry about a file that was refused. -/
def ReloadError.entry (e : ReloadError) : Log.Entry :=
  ⟨.error, .watch, "Keeping previous state: " ++ e.message⟩

/-- The entry is about a file that was refused. -/
def Log.Entry.isRefusal (entry : Log.Entry) : Bool :=
  entry.level = .error && entry.source = .watch &&
    "Keeping previous state: ".toList.isPrefixOf entry.text.toList

theorem Log.Entry.isRefusal_of_level {entry : Log.Entry} (h : entry.level ≠ .error) :
    entry.isRefusal = false := by
  rw [isRefusal, decide_eq_false h]
  rfl

theorem ReloadError.isRefusal_entry (e : ReloadError) : e.entry.isRefusal = true := by
  rw [Log.Entry.isRefusal, entry, String.toList_append]
  simp

theorem WatchEvent.isRefusal_of_mem_log {e : WatchEvent} {entry : Log.Entry} (h : entry ∈ e.log) :
    entry.isRefusal = false := by
  cases e with
  | files event ps => cases h
  | failed text =>
    rw [log, List.mem_singleton] at h
    subst h
    rw [Log.Entry.isRefusal, String.toList_append]
    rfl

theorem RuleCache.level_of_mem_fetchLog {c : RuleCache} {rules : SharedExpressions}
    {entry : Log.Entry} (h : entry ∈ c.fetchLog rules) : entry.level ≠ .error := by
  rw [fetchLog] at h
  split at h
  · cases h
  · rw [List.mem_singleton] at h
    subst h
    exact nofun

theorem Pass.level_of_mem_log {p : Pass} {fields : Nat} {entry : Log.Entry}
    (h : entry ∈ p.log fields) : entry.level ≠ .error := by
  rw [log, List.mem_append, List.mem_map] at h
  rcases h with ⟨failure, -, rfl⟩ | h
  · exact nofun
  · split at h
    · cases h
    · rw [List.mem_singleton] at h
      subst h
      exact nofun

namespace Form

variable {f : Form} {entry : Log.Entry}

theorem level_of_mem_changeLog {rules : SharedExpressions} {record : Record}
    {overrides : Overrides} (h : entry ∈ (f.change rules record overrides).log) :
    entry.level ≠ .error := by
  have hlog : (f.change rules record overrides).log =
      f.cache.passLog f.registry rules record overrides := by
    rw [change]
    split <;> rfl
  rw [hlog, RuleCache.passLog, List.mem_append] at h
  rcases h with h | h
  · exact RuleCache.level_of_mem_fetchLog h
  · exact Pass.level_of_mem_log h

theorem level_of_mem_takeRulesLog {rules : Expressions} (h : entry ∈ (f.takeRules rules).log) :
    entry.level ≠ .error := by
  rw [takeRules] at h
  split at h
  · cases h
  · exact level_of_mem_changeLog h

theorem level_of_mem_takeOverridesLog {overrides : Overrides}
    (h : entry ∈ (f.takeOverrides overrides).log) : entry.level ≠ .error := by
  rw [takeOverrides] at h
  split at h
  · cases h
  · exact level_of_mem_changeLog h

theorem level_of_mem_takeFileLog {file : FormFile} (h : entry ∈ (f.takeFile file).log) :
    entry.level ≠ .error := by
  rw [takeFile] at h
  split at h
  · exact level_of_mem_takeRulesLog h
  · rcases List.mem_append.1 h with h | h
    · exact level_of_mem_takeRulesLog h
    · exact level_of_mem_takeOverridesLog h

/-- Taking in a file logs no error by itself. -/
theorem level_of_mem_reloadLog {files : Files} {paths : WatchedPaths} {input : Input}
    (h : entry ∈ (f.reload files paths input).log) : entry.level ≠ .error := by
  cases input with
  | form =>
    cases hload : files.loadForm paths.form with
    | error e => rw [reload_form_of_error hload] at h; cases h
    | ok file => rw [reload_form_of_ok hload] at h; exact level_of_mem_takeFileLog h
  | data =>
    cases hload : files.loadRecord paths.data with
    | error e => rw [reload_data_of_error hload] at h; cases h
    | ok record => rw [reload_data_of_ok hload] at h; exact level_of_mem_changeLog h

end Form

/-! ## Taking in inputs -/

/-- Why an input is refused, if it is. -/
def Files.refusal? (files : Files) (registry : Registry) (paths : WatchedPaths) :
    Input → Option ReloadError
  | .form =>
    match files.acceptForm registry paths.form with
    | .error e => some e
    | .ok _ => none
  | .data =>
    match files.acceptRecord paths.data with
    | .error e => some e
    | .ok _ => none

/-- A form file and a record, replaced by what some inputs hold if that is accepted. -/
def Inputs.renew (i : Inputs) (files : Files) (registry : Registry) (paths : WatchedPaths)
    (inputs : List Input) : Inputs where
  file :=
    if .form ∈ inputs then ((files.acceptForm registry paths.form).toOption).getD i.file
    else i.file
  record :=
    if .data ∈ inputs then ((files.acceptRecord paths.data).toOption).getD i.record
    else i.record

theorem Inputs.renew_cons (i : Inputs) (files : Files) (registry : Registry)
    (paths : WatchedPaths) (input : Input) (rest : List Input) :
    i.renew files registry paths (input :: rest) =
      (i.renew files registry paths [input]).renew files registry paths rest := by
  cases input with
  | form => cases h : (files.acceptForm registry paths.form).toOption <;> simp [renew, h]
  | data => cases h : (files.acceptRecord paths.data).toOption <;> simp [renew, h]

theorem Files.toOption_acceptForm {files : Files} {registry : Registry} {paths : WatchedPaths}
    (h : files.refusal? registry paths .form ≠ none) :
    (files.acceptForm registry paths.form).toOption = none := by
  rw [refusal?] at h
  cases haccept : files.acceptForm registry paths.form with
  | error e => rfl
  | ok file => simp [haccept] at h

theorem Files.toOption_acceptRecord {files : Files} {registry : Registry} {paths : WatchedPaths}
    (h : files.refusal? registry paths .data ≠ none) :
    (files.acceptRecord paths.data).toOption = none := by
  rw [refusal?] at h
  cases haccept : files.acceptRecord paths.data with
  | error e => rfl
  | ok record => simp [haccept] at h

/-- Inputs that are refused replace nothing. -/
theorem Inputs.renew_of_refused (i : Inputs) {files : Files} {registry : Registry}
    {paths : WatchedPaths} {inputs : List Input}
    (refused : ∀ input ∈ inputs, files.refusal? registry paths input ≠ none) :
    i.renew files registry paths inputs = i := by
  rw [renew]
  congr 1
  · split
    · next h => rw [Files.toOption_acceptForm (refused .form h), Option.getD_none]
    · rfl
  · split
    · next h => rw [Files.toOption_acceptRecord (refused .data h), Option.getD_none]
    · rfl

/-- The form is up to date with a form file and a record. -/
structure Form.Shows (registry : Registry) (i : Inputs) (f : Form) : Prop where
  fresh : f.Fresh registry
  holds : f.Holds i.file i.record

namespace Form

variable {registry : Registry} {i : Inputs} {f : Form}

/-- After an input is taken in, the form shows what it holds if that is accepted.  Otherwise it
shows what it showed, and the reason is given. -/
theorem Shows.reload (shows : f.Shows registry i) (files : Files) (paths : WatchedPaths)
    (input : Input) :
    (f.reload files paths input).form.Shows registry (i.renew files registry paths [input]) ∧
      (f.reload files paths input).failure = files.refusal? registry paths input := by
  have fresh := shows.fresh.reload files paths input
  cases input with
  | form =>
    rcases shows.fresh.reload_form_cases files paths with
      ⟨e, refused, failed, kept⟩ | ⟨file, accepted, done, hrules, hrecord, hoverrides⟩
    · have hrefusal : files.refusal? registry paths .form = some e := by
        rw [Files.refusal?, refused]
      rw [i.renew_of_refused (by simp [hrefusal]), failed, hrefusal]
      exact ⟨⟨fresh, kept.holds shows.holds⟩, rfl⟩
    · have hrenew : i.renew files registry paths [.form] = { i with file } := by
        simp [Inputs.renew, accepted, Except.toOption]
      rw [shows.holds.record] at hrecord
      rw [hrenew, done, Files.refusal?, accepted]
      exact ⟨⟨fresh, .of_replacedBy hrules hrecord hoverrides⟩, rfl⟩
  | data =>
    rcases shows.fresh.reload_data_cases files paths with
      ⟨e, refused, failed, kept⟩ | ⟨record, accepted, done, hrules, hoverrides, hrecord⟩
    · have hrefusal : files.refusal? registry paths .data = some e := by
        rw [Files.refusal?, refused]
      rw [i.renew_of_refused (by simp [hrefusal]), failed, hrefusal]
      exact ⟨⟨fresh, kept.holds shows.holds⟩, rfl⟩
    · have hrenew : i.renew files registry paths [.data] = { i with record } := by
        simp [Inputs.renew, accepted, Except.toOption]
      rw [hrenew, done, Files.refusal?, accepted]
      refine ⟨⟨fresh, ?_, ?_, hrecord⟩, rfl⟩
      · rw [hrules, shows.holds.rules]
      · rw [hoverrides, shows.holds.overrides]

/-- The lines about an input stand before those about the inputs after it. -/
theorem log_reloadAll_cons (f : Form) (files : Files) (paths : WatchedPaths) (input : Input)
    (rest : List Input) :
    (f.reloadAll files paths (input :: rest)).2 =
      [⟨.info, .watch, input.name ++ " file changed, re-validating"⟩] ++
        (f.reload files paths input).log ++
          ((f.reload files paths input).failure.map ReloadError.entry).toList ++
            ((f.reload files paths input).form.reloadAll files paths rest).2 := rfl

/-- Inputs are taken in one after the other.  Each that is refused leaves one line that says so. -/
theorem Shows.reloadAll (shows : f.Shows registry i) (files : Files) (paths : WatchedPaths)
    (inputs : List Input) :
    (f.reloadAll files paths inputs).1.Shows registry (i.renew files registry paths inputs) ∧
      (f.reloadAll files paths inputs).2.filter Log.Entry.isRefusal =
        (inputs.filterMap (files.refusal? registry paths)).map ReloadError.entry := by
  induction inputs generalizing f i with
  | nil => exact ⟨shows, rfl⟩
  | cons input rest ih =>
    obtain ⟨first, hfailure⟩ := shows.reload files paths input
    obtain ⟨last, hlog⟩ := ih first
    refine ⟨by rw [Inputs.renew_cons]; exact last, ?_⟩
    -- Of the lines about one input, only the one about its refusal counts.
    have hreload : (f.reload files paths input).log.filter Log.Entry.isRefusal = [] :=
      List.filter_eq_nil_iff.2 fun entry h => by
        rw [Log.Entry.isRefusal_of_level (level_of_mem_reloadLog h)]
        exact Bool.false_ne_true
    have hrefusals : ∀ e? : Option ReloadError,
        ((e?.map ReloadError.entry).toList).filter Log.Entry.isRefusal =
          e?.toList.map ReloadError.entry := by
      rintro (_ | e)
      · rfl
      · exact List.filter_cons_of_pos e.isRefusal_entry
    rw [log_reloadAll_cons, List.filter_append, List.filter_append, List.filter_append, hreload,
      hlog, hfailure, hrefusals]
    cases hrefusal : files.refusal? registry paths input with
    | none => rw [List.filterMap_cons_none hrefusal]; rfl
    | some e => rw [List.filterMap_cons_some hrefusal]; rfl

end Form

end FormRules
