import FormRules.Proofs.Form.Reachable
import FormRules.Proofs.Watch.Batch

/-!
# The order of events does not matter

A batch mentions inputs in some order, some of them again and again, and with errors
of the watcher in between.  The form takes in each mentioned input once, in the order
of the first mention (`distinctInputs_inFirstMentionOrder`), and goes on after one
that is refused.

What a form says are its *inputs*, a form file and a record (`Form.inputs`).  Taking
in an input replaces its own half of them if it is accepted, and whether it is
depends on neither half (`Inputs.take`).  The pass that goes with it does read the
other half: the new rules are run on the record of that time, and the new record
under the rules of that time.  But the pass only makes a result, and of a reachable
form the result is the one of its inputs in the end.  So two steps commute, and
batches that mention the same inputs leave forms that say the same
(`batch_effect_order_free`).
-/

namespace FormRules

/-! ## Taking in inputs -/

/-- What a form says after it took in an input: what the input holds if it is accepted, and
otherwise what it said. -/
def Inputs.take (files : Files) (registry : Registry) (paths : WatchedPaths) (i : Inputs) :
    Input → Inputs
  | .form =>
    match files.acceptForm registry paths.form with
    | .ok file => { i with file := ⟨file.rules, i.file.messages.replacedBy file.messages⟩ }
    | .error _ => i
  | .data =>
    match files.acceptRecord paths.data with
    | .ok record => { i with record }
    | .error _ => i

/-- What a form says after it took in what is mentioned.  Neither input keeps the other from being
taken in. -/
structure Inputs.TakesIn (files : Files) (registry : Registry) (paths : WatchedPaths)
    (mentions : List Input) (i j : Inputs) : Prop where
  file_accepted : .form ∈ mentions → ∀ file, files.acceptForm registry paths.form = .ok file →
    j.file = ⟨file.rules, i.file.messages.replacedBy file.messages⟩
  file_kept : (.form ∈ mentions → ∃ e, files.acceptForm registry paths.form = .error e) →
    j.file = i.file
  record_accepted : .data ∈ mentions → ∀ record, files.acceptRecord paths.data = .ok record →
    j.record = record
  record_kept : (.data ∈ mentions → ∃ e, files.acceptRecord paths.data = .error e) →
    j.record = i.record

namespace Form

/-- What a form says. -/
def inputs (f : Form) : Inputs := ⟨⟨f.rules.content, f.overrides⟩, f.record⟩

/-- The form after it took in inputs, first to last, refused ones included. -/
def takeAll (f : Form) (files : Files) (paths : WatchedPaths) (inputs : List Input) : Form :=
  inputs.foldl (fun f input => (f.reload files paths input).form) f

variable {registry : Registry} {f g : Form} {files : Files} {paths : WatchedPaths}

theorem form_reloadAll (f : Form) (files : Files) (paths : WatchedPaths) (inputs : List Input) :
    (f.reloadAll files paths inputs).1 = f.takeAll files paths inputs := by
  induction inputs generalizing f with
  | nil => rfl
  | cons input rest ih => exact ih _

/-- A batch takes in the inputs that it mentions first to last. -/
theorem form_answer (f : Form) (paths : WatchedPaths) (b : Batch) :
    (f.answer paths b).form = f.takeAll b.files paths (distinctInputs (b.mentions paths)) := by
  rw [answer, Batch.inputs, ← Batch.mentions]
  cases distinctInputs (b.mentions paths) with
  | nil => rfl
  | cons input rest => exact form_reloadAll f b.files paths (input :: rest)

/-- Two forms say the same and have the same result.  The identity of their rules may differ. -/
structure Alike (f g : Form) : Prop where
  rules : f.rules.content = g.rules.content
  record : f.record = g.record
  overrides : f.overrides = g.overrides
  result : f.result = g.result

/-- Fresh forms that say the same have the same result. -/
theorem Fresh.alike (hf : f.Fresh registry) (hg : g.Fresh registry) (same : f.inputs = g.inputs) :
    f.Alike g := by
  have hfile := congrArg Inputs.file same
  have hrules : f.rules.content = g.rules.content := congrArg FormFile.rules hfile
  have hoverrides : f.overrides = g.overrides := congrArg FormFile.messages hfile
  have hrecord : f.record = g.record := congrArg Inputs.record same
  have hresult := hf.current
  rw [hrules, hoverrides, hrecord, hg.current] at hresult
  exact ⟨hrules, hrecord, hoverrides, (Except.ok.inj hresult).symm⟩

theorem Keeps.inputs_eq (kept : g.Keeps f) : g.inputs = f.inputs := by
  rw [inputs, kept.rules, kept.overrides, kept.record, inputs]

/-- A reload of a fresh form does to its inputs what the files decide. -/
theorem Fresh.inputs_reload (fresh : f.Fresh registry) (files : Files) (paths : WatchedPaths)
    (input : Input) :
    (f.reload files paths input).form.inputs = f.inputs.take files registry paths input := by
  cases input with
  | form =>
    rw [Inputs.take]
    rcases fresh.reload_form_cases files paths with
      ⟨e, refused, -, kept⟩ | ⟨file, accepted, -, hrules, hrecord, hoverrides⟩
    · rw [refused, kept.inputs_eq]
    · rw [accepted, inputs, hrules, hrecord, hoverrides, inputs]
  | data =>
    rw [Inputs.take]
    rcases fresh.reload_data_cases files paths with
      ⟨e, refused, -, kept⟩ | ⟨record, accepted, -, hrules, hoverrides, hrecord⟩
    · rw [refused, kept.inputs_eq]
    · rw [accepted, inputs, hrules, hrecord, hoverrides, inputs]

theorem Reachable.takeAll (reachable : f.Reachable registry) (files : Files)
    (paths : WatchedPaths) (inputs : List Input) :
    (f.takeAll files paths inputs).Reachable registry := by
  induction inputs generalizing f with
  | nil => exact reachable
  | cons input rest ih => exact ih (reachable.reload files paths input)

theorem Reachable.inputs_takeAll (reachable : f.Reachable registry) (files : Files)
    (paths : WatchedPaths) (inputs : List Input) :
    (f.takeAll files paths inputs).inputs =
      inputs.foldl (Inputs.take files registry paths) f.inputs := by
  induction inputs generalizing f with
  | nil => rfl
  | cons input rest ih =>
    rw [List.foldl_cons, ← reachable.fresh.inputs_reload]
    exact ih (reachable.reload files paths input)

end Form

/-! ## Any order -/

namespace Inputs

variable {files : Files} {registry : Registry} {paths : WatchedPaths}

/-- Either of two inputs may be taken in first. -/
theorem take_comm (files : Files) (registry : Registry) (paths : WatchedPaths) (i : Inputs)
    (a b : Input) :
    (i.take files registry paths a).take files registry paths b =
      (i.take files registry paths b).take files registry paths a := by
  cases a <;> cases b
  case form.form | data.data => rfl
  case form.data | data.form =>
    rw [take, take, take, take]
    cases files.acceptForm registry paths.form <;> cases files.acceptRecord paths.data <;> rfl

/-- Taking in mentioned inputs depends on what is mentioned only. -/
theorem foldl_take_distinctInputs (i : Inputs) (mentions : List Input) :
    (distinctInputs mentions).foldl (take files registry paths) i =
      ([.form, .data].filter (· ∈ mentions)).foldl (take files registry paths) i :=
  (perm_distinctInputs mentions).foldl_eq' (fun a _ b _ i => take_comm files registry paths i a b) i

theorem file_take_data (i : Inputs) : (i.take files registry paths .data).file = i.file := by
  rw [take]
  cases files.acceptRecord paths.data <;> rfl

theorem record_take_form (i : Inputs) : (i.take files registry paths .form).record = i.record := by
  rw [take]
  cases files.acceptForm registry paths.form <;> rfl

theorem file_foldl_take (i : Inputs) (mentions : List Input) :
    ((distinctInputs mentions).foldl (take files registry paths) i).file =
      if .form ∈ mentions then (i.take files registry paths .form).file else i.file := by
  rw [foldl_take_distinctInputs]
  by_cases hform : .form ∈ mentions <;> by_cases hdata : .data ∈ mentions <;>
    simp [hform, hdata, file_take_data]

theorem record_foldl_take (i : Inputs) (mentions : List Input) :
    ((distinctInputs mentions).foldl (take files registry paths) i).record =
      if .data ∈ mentions then (i.take files registry paths .data).record else i.record := by
  rw [foldl_take_distinctInputs]
  by_cases hform : .form ∈ mentions <;> by_cases hdata : .data ∈ mentions
  · simp [hform, hdata, take_comm files registry paths i .form .data, record_take_form]
  · simp [hform, hdata, record_take_form]
  · simp [hform, hdata]
  · simp [hform, hdata]

theorem takesIn_foldl_take (i : Inputs) (mentions : List Input) :
    i.TakesIn files registry paths mentions
      ((distinctInputs mentions).foldl (take files registry paths) i) where
  file_accepted mentioned file accepted := by
    rw [file_foldl_take, if_pos mentioned, take, accepted]
  file_kept refused := by
    rw [file_foldl_take]
    split
    case isTrue mentioned =>
      obtain ⟨e, he⟩ := refused mentioned
      rw [take, he]
    case isFalse => rfl
  record_accepted mentioned record accepted := by
    rw [record_foldl_take, if_pos mentioned, take, accepted]
  record_kept refused := by
    rw [record_foldl_take]
    split
    case isTrue mentioned =>
      obtain ⟨e, he⟩ := refused mentioned
      rw [take, he]
    case isFalse => rfl

end Inputs

namespace Form

variable {registry : Registry} {f : Form} {files : Files} {paths : WatchedPaths}

/-- Mentions of the same inputs have the same effect, in any order. -/
theorem Reachable.alike_takeAll (reachable : f.Reachable registry) (files : Files)
    (paths : WatchedPaths) {m n : List Input} (same : ∀ input, input ∈ m ↔ input ∈ n) :
    (f.takeAll files paths (distinctInputs m)).Alike
      (f.takeAll files paths (distinctInputs n)) := by
  refine (reachable.takeAll files paths _).fresh.alike (reachable.takeAll files paths _).fresh ?_
  rw [reachable.inputs_takeAll, reachable.inputs_takeAll, Inputs.foldl_take_distinctInputs,
    Inputs.foldl_take_distinctInputs]
  simp only [same]

/-- Batches that mention the same inputs leave a form alike, and so do any mentions of the same
inputs.  A batch takes in each input that it mentions once, in the order of the first mention, and
what becomes of one input is settled by its file, not by the other input. -/
theorem batch_effect_order_free (reachable : f.Reachable registry) (paths : WatchedPaths) :
    (∀ a b : Batch, a.files = b.files →
      (∀ input, a.Renews paths input ↔ b.Renews paths input) →
        (f.answer paths a).form.Alike (f.answer paths b).form) ∧
    (∀ files m n, (∀ input, input ∈ m ↔ input ∈ n) →
      (f.takeAll files paths (distinctInputs m)).Alike
        (f.takeAll files paths (distinctInputs n))) ∧
    (∀ b : Batch, (f.answer paths b).form =
      f.takeAll b.files paths (distinctInputs (b.mentions paths))) ∧
    ∀ mentions, InFirstMentionOrder (distinctInputs mentions) mentions ∧
      ∀ files, f.inputs.TakesIn files registry paths mentions
        (f.takeAll files paths (distinctInputs mentions)).inputs := by
  refine ⟨fun a b hfiles same => ?_, fun files m n => reachable.alike_takeAll files paths,
    f.form_answer paths, fun mentions => ⟨distinctInputs_inFirstMentionOrder mentions, ?_⟩⟩
  · rw [form_answer, form_answer, hfiles]
    refine reachable.alike_takeAll b.files paths fun input => ?_
    rw [Batch.mem_mentions_iff, Batch.mem_mentions_iff, same]
  · intro files
    rw [reachable.inputs_takeAll]
    exact f.inputs.takesIn_foldl_take mentions

/-- A form file with an unknown validator beside a new record, in two orders and with an error of
the watcher in between.  The record is taken in either way, and the rules stay. -/
theorem batch_effect_order_free_refused :
    let paths : WatchedPaths := ⟨⟨"form"⟩, ⟨"data"⟩⟩
    let files : Files := ⟨some, fun steps =>
      if steps = paths.form.steps then some "rules.name = \"slug\""
      else some "\x7b\"name\": \"Jo\"\x7d"⟩
    let a : Batch :=
      ⟨[.files .modified [paths.form], .failed "lost", .files .created [paths.data, paths.form]],
        files⟩
    let b : Batch := ⟨[.files .modified [paths.data], .files .modified [paths.form]], files⟩
    let rules : Expressions := .ofList [("name", "required|min:3")]
    ∃ f : Form, f.Reachable .standard ∧ f.rules.content = rules ∧
      (∀ input, a.Renews paths input ↔ b.Renews paths input) ∧
      (f.answer paths a).form.Alike (f.answer paths b).form ∧
      (f.answer paths a).form.rules.content = rules ∧
      (f.answer paths a).form.record = .ofList [("name", .text "Jo")] := by
  intro paths files a b rules
  let shared : SharedExpressions := ⟨0, rules⟩
  have checked : Registry.standard.checkRules shared.content.parsed = .ok () :=
    Registry.checkRules_eq_ok_of_contains _ _ (by decide)
  obtain ⟨f, created⟩ := exists_create_eq_ok checked .empty .empty
  have hrules : f.rules.content = rules := by
    obtain ⟨result, -, rfl⟩ := create_eq_ok_iff.1 created
    rfl
  have reachable : f.Reachable .standard := .create created
  have same : ∀ input, a.Renews paths input ↔ b.Renews paths input := by
    intro input
    cases input <;> decide +kernel
  have refused : files.acceptForm .standard paths.form = .error (.rules ⟨"name", "slug"⟩) := by
    decide +kernel
  have accepted : files.acceptRecord paths.data = .ok (.ofList [("name", .text "Jo")]) := by
    decide +kernel
  obtain ⟨batches, -, answer, mentions⟩ := batch_effect_order_free reachable paths
  have takes := (mentions (a.mentions paths)).2 files
  rw [show files = a.files from rfl, ← answer a] at takes
  have hfile : (f.answer paths a).form.inputs.file = f.inputs.file :=
    takes.file_kept fun _ => ⟨_, refused⟩
  have hrecord : (f.answer paths a).form.inputs.record = .ofList [("name", .text "Jo")] :=
    takes.record_accepted (Batch.mem_mentions_iff.2 (by decide +kernel)) _ accepted
  exact ⟨f, reachable, hrules, same, batches a b rfl same,
    (congrArg FormFile.rules hfile).trans hrules, hrecord⟩

end Form

end FormRules
