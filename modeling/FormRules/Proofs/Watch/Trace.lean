import FormRules.Proofs.Watch.Batch
import FormRules.Proofs.Watch.Paths
import Mathlib.Data.List.Induction

/-!
# What a watch prints

A watch prints one report when it starts and one for every batch that renews an
input.  A batch that renews none is *quiet*.  The report after a batch is the one
of the last accepted versions: the last form file and the last record that some
batch up to this one brought and that were accepted, or else those that the watch
began with (`Inputs.after`).  If everything that a batch brings is refused, the
report before it is therefore printed once more.

`Settings.Prints` tells this by the batches alone, with neither a form nor a
reload in it, and the watch prints exactly that
(`Settings.watch_prints_renewing_batches`).  The proof carries `Form.Shows` along
the batches: in every state, the form is up to date with the last accepted
versions (`Form.Shows.after`).
-/

namespace FormRules

/-! ## Last accepted versions -/

namespace Batch

/-- The form file that a batch brings, if it is accepted. -/
def form? (registry : Registry) (paths : WatchedPaths) (b : Batch) : Option FormFile :=
  if b.Renews paths .form then (b.files.acceptForm registry paths.form).toOption else none

/-- The record that a batch brings, if it is accepted. -/
def record? (paths : WatchedPaths) (b : Batch) : Option Record :=
  if b.Renews paths .data then (b.files.acceptRecord paths.data).toOption else none

/-- Why the inputs that a batch renews are refused, for each that is. -/
def refusals (registry : Registry) (paths : WatchedPaths) (b : Batch) : List ReloadError :=
  ([.form, .data].filter fun input => b.Renews paths input).filterMap
    (b.files.refusal? registry paths)

end Batch

namespace Inputs

/-- The last form file and the last record that batches brought, or else those from before. -/
def after (i : Inputs) (registry : Registry) (paths : WatchedPaths) (batches : List Batch) :
    Inputs where
  file := ((batches.filterMap (Batch.form? registry paths)).getLast?).getD i.file
  record := ((batches.filterMap (Batch.record? paths)).getLast?).getD i.record

/-- The result of a form file and a record. -/
def evaluate (i : Inputs) (registry : Registry) : Except UnknownValidator Result :=
  registry.evaluate i.record i.file.rules.parsed i.file.messages

variable {i : Inputs} {registry : Registry} {paths : WatchedPaths}

/-- The last of some, when there may be one more. -/
theorem getD_getLast?_filterMap {α : Type} (g : Batch → Option α) (batches : List Batch) (b : Batch)
    (a : α) :
    (((batches ++ [b]).filterMap g).getLast?).getD a =
      (g b).getD (((batches.filterMap g).getLast?).getD a) := by
  rw [List.filterMap_append]
  cases h : g b with
  | none => rw [List.filterMap_cons_none h, List.filterMap_nil, List.append_nil, Option.getD_none]
  | some x =>
    rw [List.filterMap_cons_some h, List.filterMap_nil, List.getLast?_concat, Option.getD_some,
      Option.getD_some]

/-- One more batch replaces what it renews. -/
theorem after_append_singleton (batches : List Batch) (b : Batch) :
    i.after registry paths (batches ++ [b]) =
      (i.after registry paths batches).renew b.files registry paths (b.inputs paths) := by
  rw [after, getD_getLast?_filterMap, getD_getLast?_filterMap, renew, Batch.form?, Batch.record?]
  simp only [Batch.mem_inputs_iff, after]
  congr 1
  · split <;> rfl
  · split <;> rfl

end Inputs

/-! ## What is printed -/

/-- What a watch prints for batches, when it begins with a form file and a record. -/
inductive Settings.Prints (s : Settings) (registry : Registry) (paths : WatchedPaths)
    (i : Inputs) : List Batch → List String → Prop where
  /-- The first report is about what the watch begins with. -/
  | start {result : Result} : i.evaluate registry = .ok result →
      Prints s registry paths i [] [s.report result]
  /-- After a batch that renews no input, nothing is printed. -/
  | quiet {batches : List Batch} {out : List String} {b : Batch} :
      Prints s registry paths i batches out → (∀ input, ¬ b.Renews paths input) →
        Prints s registry paths i (batches ++ [b]) out
  /-- After any other batch, there is one report about the last accepted versions. -/
  | report {batches : List Batch} {out : List String} {b : Batch} {input : Input}
      {result : Result} : Prints s registry paths i batches out → b.Renews paths input →
        (i.after registry paths (batches ++ [b])).evaluate registry = .ok result →
          Prints s registry paths i (batches ++ [b]) (out ++ [s.report result])

namespace Form

variable {registry : Registry} {i : Inputs} {f : Form} {paths : WatchedPaths}

/-! ## Batches, one after the other -/

/-- The form after batches. -/
def after (f : Form) (paths : WatchedPaths) (batches : List Batch) : Form :=
  batches.foldl (fun f b => (f.answer paths b).form) f

theorem after_append_singleton (f : Form) (paths : WatchedPaths) (batches : List Batch)
    (b : Batch) : f.after paths (batches ++ [b]) = ((f.after paths batches).answer paths b).form :=
  List.foldl_append

theorem answers_append_singleton (f : Form) (paths : WatchedPaths) (batches : List Batch)
    (b : Batch) :
    f.answers paths (batches ++ [b]) =
      f.answers paths batches ++ [(f.after paths batches).answer paths b] := by
  induction batches generalizing f with
  | nil => rfl
  | cons first rest ih =>
    rw [List.cons_append, answers, ih]
    rfl

theorem reports_append_singleton (f : Form) (paths : WatchedPaths) (batches : List Batch)
    (b : Batch) :
    f.reports paths (batches ++ [b]) =
      f.reports paths batches ++ ((f.after paths batches).answer paths b).report.toList := by
  rw [reports, answers_append_singleton, List.filterMap_append, reports, List.cons_append]
  rfl

/-! ## The invariant -/

theorem Shows.evaluate (shows : f.Shows registry i) : i.evaluate registry = .ok f.result :=
  shows.fresh.evaluate_of_holds shows.holds

/-- After a batch, the form shows what the batch brings and what is accepted of it.  Every refusal
is logged once. -/
theorem Shows.answer (shows : f.Shows registry i) (paths : WatchedPaths) (b : Batch) :
    (f.answer paths b).form.Shows registry (i.renew b.files registry paths (b.inputs paths)) ∧
      ((f.answer paths b).log.filter Log.Entry.isRefusal).Perm
        ((b.refusals registry paths).map ReloadError.entry) := by
  have hevents : (b.events.flatMap WatchEvent.log).filter Log.Entry.isRefusal = [] := by
    refine List.filter_eq_nil_iff.2 fun entry h => ?_
    obtain ⟨e, -, hentry⟩ := List.mem_flatMap.1 h
    rw [WatchEvent.isRefusal_of_mem_log hentry]
    exact Bool.false_ne_true
  have hrefusals : ((b.inputs paths).filterMap (b.files.refusal? registry paths)).Perm
      (b.refusals registry paths) := (b.perm_inputs paths).filterMap _
  by_cases quiet : ∀ input, ¬ b.Renews paths input
  · rw [Batch.inputs_eq_nil_iff.2 quiet] at hrefusals ⊢
    rw [answer_of_quiet quiet, hevents, hrefusals.symm.eq_nil]
    exact ⟨shows, .refl _⟩
  · obtain ⟨input, renews⟩ := not_forall_not.1 quiet
    obtain ⟨last, hlog⟩ := shows.reloadAll b.files paths (b.inputs paths)
    rw [answer_of_renews renews, List.filter_append, hevents, List.nil_append, hlog]
    exact ⟨last, hrefusals.map _⟩

/-- In every state of a watch, the form shows the last accepted versions. -/
theorem Shows.after (shows : f.Shows registry i) (paths : WatchedPaths) (batches : List Batch) :
    (f.after paths batches).Shows registry (i.after registry paths batches) := by
  induction batches using List.reverseRecOn with
  | nil => exact shows
  | append_singleton batches b ih =>
    rw [after_append_singleton, Inputs.after_append_singleton]
    exact (ih.answer paths b).1

/-- If everything that a batch renews is refused, the result is reported once more. -/
theorem Shows.report_of_refused (shows : f.Shows registry i) {b : Batch} {input : Input}
    (renews : b.Renews paths input)
    (refused : ∀ input, b.Renews paths input → b.files.refusal? registry paths input ≠ none) :
    (f.answer paths b).report = some f.result := by
  have hrenew : i.renew b.files registry paths (b.inputs paths) = i :=
    i.renew_of_refused fun input h => refused input (Batch.mem_inputs_iff.1 h)
  obtain ⟨next, -⟩ := shows.answer paths b
  rw [hrenew] at next
  have hresult : (f.answer paths b).form.result = f.result :=
    Except.ok.inj (next.evaluate.symm.trans shows.evaluate)
  rw [answer_of_renews renews] at hresult ⊢
  exact congrArg some hresult

/-- Every batch of a watch is answered, and every refusal is logged once. -/
theorem Shows.forall₂_answers (shows : f.Shows registry i) (batches : List Batch) :
    List.Forall₂ (fun b (step : WatchStep) => (step.log.filter Log.Entry.isRefusal).Perm
      ((b.refusals registry paths).map ReloadError.entry)) batches (f.answers paths batches) := by
  induction batches generalizing f i with
  | nil => exact .nil
  | cons b rest ih =>
    obtain ⟨next, hlog⟩ := shows.answer paths b
    exact .cons hlog (ih next)

/-- Idle events have no part in a watch. -/
theorem answers_keep (f : Form) {p : WatchEvent → Bool} {batches : List Batch}
    (h : ∀ b ∈ batches, ∀ e ∈ b.events, p e = false → e.Idle paths) :
    f.answers paths (batches.map (Batch.keep p)) = f.answers paths batches := by
  induction batches generalizing f with
  | nil => rfl
  | cons b rest ih =>
    rw [List.map_cons, answers, answers, f.answer_keep (h b List.mem_cons_self),
      ih _ fun b hb => h b (List.mem_cons_of_mem _ hb)]

end Form

/-! ## Whole watches -/

namespace Settings

variable {s : Settings} {registry : Registry} {paths : WatchedPaths} {i : Inputs} {f : Form}

/-- A watch begins with a form that shows what the two files say. -/
theorem exists_shows_of_openWatch {files : Files}
    (opened : s.openWatch files = .ok (f, paths)) :
    ∃ i, s.inputs files = .ok i ∧ f.Shows (s.registry files) i := by
  obtain ⟨hform, -⟩ := openWatch_eq_ok_iff.1 opened
  obtain ⟨i, hinputs, hcreate⟩ := exists_inputs_of_openForm hform
  exact ⟨i, hinputs, Form.fresh_create hcreate, Form.holds_create hcreate⟩

/-- What the reports say is printed. -/
theorem prints_reports (s : Settings) (shows : f.Shows registry i) (batches : List Batch) :
    s.Prints registry paths i batches ((f.reports paths batches).map s.report) := by
  induction batches using List.reverseRecOn with
  | nil => exact .start shows.evaluate
  | append_singleton batches b ih =>
    rw [Form.reports_append_singleton]
    by_cases quiet : ∀ input, ¬ b.Renews paths input
    · rw [Form.answer_of_quiet quiet, Option.toList_none, List.append_nil]
      exact .quiet ih quiet
    · obtain ⟨input, renews⟩ := not_forall_not.1 quiet
      have last := (shows.after paths (batches ++ [b])).evaluate
      rw [Form.after_append_singleton, Form.answer_of_renews renews] at last
      rw [Form.answer_of_renews renews, Option.toList_some, List.map_append]
      exact .report ih renews last

/-- Nothing else is printed. -/
theorem Prints.eq_reports (shows : f.Shows registry i) {batches : List Batch} {out : List String}
    (prints : s.Prints registry paths i batches out) :
    out = (f.reports paths batches).map s.report := by
  induction prints with
  | start h =>
    rw [shows.evaluate] at h
    cases h
    rfl
  | quiet _ quiet ih =>
    rw [Form.reports_append_singleton, Form.answer_of_quiet quiet, Option.toList_none,
      List.append_nil, ih]
  | @report batches _ b _ result _ renews h ih =>
    have last := (shows.after paths (batches ++ [b])).evaluate
    rw [h, Form.after_append_singleton, Form.answer_of_renews renews] at last
    cases last
    rw [Form.reports_append_singleton, Form.answer_of_renews renews, List.map_append, ih]
    rfl

/-- A watch prints one report at its start and one for every batch that renews an input, about the
last accepted versions of the two files.  It answers every batch.  A file that is refused is logged
once, and if nothing else came with it, the result is reported once more.  Idle events have no part
in the answers, and a batch of them has no effect. -/
theorem watch_prints_renewing_batches {files : Files} {form : Form}
    (opened : s.openWatch files = .ok (form, paths)) :
    ∃ i, s.inputs files = .ok i ∧ ∀ batches,
      (∀ out, s.Prints (s.registry files) paths i batches out ↔
        out = (form.reports paths batches).map s.report) ∧
      List.Forall₂ (fun b (step : WatchStep) => (step.log.filter Log.Entry.isRefusal).Perm
        ((b.refusals (s.registry files) paths).map ReloadError.entry)) batches
          (form.answers paths batches) ∧
      (∀ b input, b.Renews paths input →
        (∀ other, b.Renews paths other →
          b.files.refusal? (s.registry files) paths other ≠ none) →
            ((form.after paths batches).answer paths b).report =
              some (form.after paths batches).result) ∧
      (∀ p : WatchEvent → Bool,
        (∀ b ∈ batches, ∀ e ∈ b.events, p e = false → e.Idle paths) →
          form.answers paths (batches.map (Batch.keep p)) = form.answers paths batches) ∧
      ∀ b, (∀ e ∈ b.events, e.Idle paths) →
        (form.after paths batches).answer paths b = ⟨form.after paths batches, none, []⟩ := by
  obtain ⟨i, hinputs, shows⟩ := exists_shows_of_openWatch opened
  refine ⟨i, hinputs, fun batches =>
    ⟨fun out => ⟨?_, ?_⟩, shows.forall₂_answers batches, ?_, ?_, ?_⟩⟩
  · exact fun prints => prints.eq_reports shows
  · rintro rfl
    exact prints_reports s shows batches
  · exact fun b input renews refused =>
      (shows.after paths batches).report_of_refused renews refused
  · exact fun p idle => form.answers_keep idle
  · exact fun b idle => Form.answer_of_idle _ idle

/-- A form file that breaks, a data file that is removed, and a data file that is written anew
beside another file.  The first batch reports the result once more, the second is quiet, and the
third reports the new record with the old rules. -/
theorem watch_prints_renewing_batches_broken :
    let s : Settings := ⟨⟨"form"⟩, ⟨"data"⟩, .text, true, [], "warn"⟩
    let paths : WatchedPaths := ⟨⟨"form"⟩, ⟨"data"⟩⟩
    let disk : String → String → Files := fun form data =>
      ⟨some, fun steps => if steps = paths.form.steps then some form else some data⟩
    let files := disk "rules.name = \"required\"" "\x7b\x7d"
    let broken : Batch :=
      ⟨[.files .modified [paths.form], .failed "lost", .files .modified [paths.form]],
        disk "rules" "\x7b\x7d"⟩
    let removed : Batch := ⟨[.files .removed [paths.data]], disk "rules" "\x7b\x7d"⟩
    let written : Batch :=
      ⟨[.files .created [⟨"elsewhere"⟩, paths.data]], disk "rules" "\x7b\"name\": \"Jo\"\x7d"⟩
    ∃ form, s.openWatch files = .ok (form, paths) ∧
      (form.reports paths [broken, removed, written]).map s.report =
        ["name: name is required\ninvalid\n", "name: name is required\ninvalid\n", "valid\n"] := by
  intro s paths disk files broken removed written
  have hpaths : (s.openWatch files).map Prod.snd = .ok paths := by decide +kernel
  cases hopen : s.openWatch files with
  | error e => rw [hopen] at hpaths; cases hpaths
  | ok opened =>
    obtain ⟨form, openedPaths⟩ := opened
    rw [hopen] at hpaths
    obtain rfl : openedPaths = paths := Except.ok.inj hpaths
    obtain ⟨i, hinputs, watch⟩ := watch_prints_renewing_batches hopen
    obtain ⟨prints, -⟩ := watch [broken, removed, written]
    let start : Inputs := ⟨⟨.ofList [("name", "required")], .empty⟩, .empty⟩
    obtain rfl : start = i := by
      have hstart : s.inputs files = .ok start :=
        inputs_eq_ok (by decide +kernel) (by decide +kernel)
      rw [hstart] at hinputs
      exact Except.ok.inj hinputs
    refine ⟨form, rfl, ((prints _).1 ?_).symm⟩
    let missing : Result := ⟨⟨.ofList [("name", ["name is required"])]⟩⟩
    have hbroken : broken.Renews paths .form := by decide +kernel
    have hremoved : ∀ input, ¬ removed.Renews paths input := by
      rintro (_ | _)
      · decide +kernel
      · decide +kernel
    have hwritten : written.Renews paths .data := by decide +kernel
    have atStart : start.evaluate (s.registry files) = .ok missing := by decide +kernel
    have afterBroken : (start.after (s.registry files) paths [broken]).evaluate
        (s.registry files) = .ok missing := by decide +kernel
    have afterWritten : (start.after (s.registry files) paths [broken, removed, written]).evaluate
        (s.registry files) = .ok ⟨.empty⟩ := by decide +kernel
    have first : s.Prints (s.registry files) paths start [] [s.report missing] := .start atStart
    exact ((first.report hbroken afterBroken).quiet hremoved).report hwritten afterWritten

end Settings

end FormRules
