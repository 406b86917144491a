import FormRules.Run
import FormRules.Watch.Reload

/-!
# Watching

A watch follows a form whose files change.  Events come in *batches*: one event
and those that arrive shortly after it.

* Only the creation and the modification of a watched file counts.  The inputs of
  a batch are those that its events mention, each once, in the order of the first
  mention.
* The form takes in every input of a batch in turn.  One that fails leaves a line
  in the log and does not keep the next one from being taken.
* A batch with an input is followed by one report, even if nothing has changed.  A
  batch without an input prints nothing.
* Errors of the watcher itself are logged and change nothing.

There is one report before the first batch.  A watch goes on until it is stopped.
-/

namespace FormRules

/-! ## Events -/

/-- What happened to files. -/
inductive FileEvent where
  | created
  | modified
  | removed
  /-- Anything else, such as reading. -/
  | other
deriving DecidableEq, Repr

/-- What the watcher of the file system tells. -/
inductive WatchEvent where
  /-- Something happened to the files at these paths. -/
  | files (event : FileEvent) (paths : List Path)
  /-- The watcher itself failed. -/
  | failed (text : String)
deriving DecidableEq, Repr

/-- Whether a file has new content after an event. -/
def FileEvent.renews : FileEvent → Bool
  | .created | .modified => true
  | .removed | .other => false

/-- The inputs that an event mentions. -/
def WatchEvent.inputs (paths : WatchedPaths) : WatchEvent → List Input
  | .files event ps => if event.renews then ps.filterMap paths.classify else []
  | .failed _ => []

/-- What an event logs by itself. -/
def WatchEvent.log : WatchEvent → List Log.Entry
  | .files _ _ => []
  | .failed text => [⟨.error, .watch, "File watcher error: " ++ text⟩]

/-! ## Batches -/

/-- Events that are answered together. -/
structure Batch where
  /-- The events, in order. -/
  events : List WatchEvent
  /-- The files when the events are answered. -/
  files : Files

/-- Inputs without repetitions, in the order of the first mention. -/
def distinctInputs (inputs : List Input) : List Input :=
  inputs.foldl (fun seen input => if seen.contains input then seen else seen ++ [input]) []

/-- The inputs of a batch. -/
def Batch.inputs (b : Batch) (paths : WatchedPaths) : List Input :=
  distinctInputs (b.events.flatMap (WatchEvent.inputs paths))

/-! ## Steps of a watch -/

/-- What the watch does at one time. -/
structure WatchStep where
  /-- The form after it. -/
  form : Form
  /-- The result that is reported, if one is. -/
  report : Option Result
  /-- What was logged. -/
  log : List Log.Entry

namespace Form

/-- Takes in inputs one after the other.  The second component is what was logged. -/
def reloadAll (f : Form) (files : Files) (paths : WatchedPaths) :
    List Input → Form × List Log.Entry
  | [] => (f, [])
  | input :: rest =>
    let r := f.reload files paths input
    let (last, log) := r.form.reloadAll files paths rest
    (last,
      ⟨.info, .watch, input.name ++ " file changed, re-validating"⟩ :: r.log ++
        (r.failure.map fun e =>
          ⟨.error, .watch, "Keeping previous state: " ++ e.message⟩).toList ++ log)

/-- The start of a watch. -/
def startWatch (f : Form) (paths : WatchedPaths) : WatchStep :=
  ⟨f, some f.result,
    [⟨.info, .watch, "Watching " ++ paths.form.text ++ " and " ++ paths.data.text⟩]⟩

/-- The answer to a batch. -/
def answer (f : Form) (paths : WatchedPaths) (b : Batch) : WatchStep :=
  let errors := b.events.flatMap WatchEvent.log
  match b.inputs paths with
  | [] => ⟨f, none, errors⟩
  | inputs =>
    let (last, log) := f.reloadAll b.files paths inputs
    ⟨last, some last.result, errors ++ log⟩

/-- The answers to batches, one after the other. -/
def answers (f : Form) (paths : WatchedPaths) : List Batch → List WatchStep
  | [] => []
  | b :: rest =>
    let step := f.answer paths b
    step :: step.form.answers paths rest

/-- The results that a watch reports. -/
def reports (f : Form) (paths : WatchedPaths) (batches : List Batch) : List Result :=
  f.result :: (f.answers paths batches).filterMap WatchStep.report

end Form

/-- What the end of a watch logs. -/
def stopWatchLog : List Log.Entry := [⟨.info, .watch, "Stopping watch"⟩]

/-- The form that settings name and the paths that are watched for it. -/
def Settings.openWatch (s : Settings) (files : Files) : Except RunError (Form × WatchedPaths) := do
  let form ← s.openForm files
  let paths ← (WatchedPaths.find files s.form s.data).mapError .load
  .ok (form, paths)

end FormRules
