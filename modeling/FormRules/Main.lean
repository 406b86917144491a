import FormRules.Watch

/-!
# The program

This is the only module that talks to the world.  It takes a view of the files
that a run may look at, leaves the run to `Settings.run` and `Form.answer`, and
prints what they give.

A watch looks at its two files again and again.  A file with another content than
before has been modified.  When one has, the watch waits for a moment and looks
once more, so that changes close to each other are one batch.
-/

namespace FormRules.Program

/-! ## Looking at files -/

/-- What was found at a path. -/
structure Found where
  /-- The path that was looked at. -/
  path : Path
  /-- The content, if it is a file that can be read. -/
  content : Option ByteArray
  /-- The path from the root. -/
  resolved : Path

/-- Looks at one path. -/
def look (path : Path) : IO (Option Found) := do
  let here ← IO.currentDir
  let target := here / path.text
  if ← target.pathExists then
    let content ← try pure (some (← IO.FS.readBinFile target)) catch _ => pure none
    let resolved ← try IO.FS.realPath target catch _ => pure target
    return some ⟨path, content, ⟨resolved.toString⟩⟩
  else
    return none

/-- The files as they were found. -/
def viewOf (found : List Found) : Files where
  resolve? p := (found.find? fun f => f.path = p).map Found.resolved
  text? steps :=
    ((found.find? fun f => f.resolved.steps = steps).bind Found.content).bind String.fromUTF8?

/-- Looks at several paths. -/
def lookAll (paths : List Path) : IO (List Found) := do
  return (← paths.mapM look).filterMap id

/-! ## Printing -/

/-- Prints lines of the log. -/
def printLog (lines : List String) : IO Unit := lines.forM fun line => IO.eprintln line

/-- Prints a step of a watch. -/
def printStep (settings : Settings) (step : WatchStep) : IO Unit := do
  printLog (settings.logLines step.log)
  if let some result := step.report then
    IO.print (settings.report result)
    (← IO.getStdout).flush

/-- Prints an error that ends the program. -/
def fail (e : RunError) : IO UInt32 := do
  IO.eprint e.report
  return 1

/-! ## Watching -/

/-- How long a watch waits between two looks, and for a batch to be complete. -/
def pause : UInt32 := 50

/-- The events between two looks at the watched files. -/
def eventsBetween (before after : List Found) : List WatchEvent :=
  after.filterMap fun f =>
    match before.find? fun g => g.path = f.path with
    | none => some (.files .created [f.path])
    | some g =>
      if g.content.map ByteArray.data = f.content.map ByteArray.data then none
      else some (.files .modified [f.path])

/-- Watches until the program is stopped. -/
partial def watchOn (settings : Settings) (paths : WatchedPaths) (form : Form)
    (before : List Found) : IO Unit := do
  IO.sleep pause
  let first ← lookAll [paths.form, paths.data]
  if (eventsBetween before first).isEmpty then
    watchOn settings paths form first
  else
    IO.sleep pause
    let settled ← lookAll [paths.form, paths.data]
    let step := form.answer paths
      ⟨eventsBetween before first ++ eventsBetween first settled, viewOf settled⟩
    printStep settings step
    watchOn settings paths step.form settled

/-! ## Running -/

/-- Runs the check once and prints what it gives. -/
def runOnce (settings : Settings) (files : Files) : IO UInt32 := do
  let run := settings.run files
  printLog run.log
  IO.print run.output
  match run.error with
  | some e => fail e
  | none => return run.exit.toUInt32

/-- Starts a watch. -/
def runWatch (settings : Settings) (files : Files) : IO UInt32 := do
  printLog (settings.logLines (settings.openLog files))
  match settings.openWatch files with
  | .error e => fail e
  | .ok (form, paths) =>
    let before ← lookAll [paths.form, paths.data]
    printStep settings (form.startWatch paths)
    watchOn settings paths form before
    return 0

/-- Carries out a command line. -/
def run (arguments : List String) : IO UInt32 := do
  match CommandLine.parse arguments with
  | .error refusal =>
    IO.print refusal.output
    IO.eprint refusal.message
    return refusal.exit.toUInt32
  | .ok line =>
    let place := Surroundings.ofVariables (← IO.getEnv "XDG_CONFIG_HOME") (← IO.getEnv "HOME")
      ⟨(← IO.currentDir).toString⟩
    match Settings.ofCommandLine place line with
    | .error e => fail (.samePath e)
    | .ok settings =>
      let files := viewOf (← lookAll
        (settings.form :: settings.data :: settings.catalogDirs.map Files.catalogPath))
      if settings.watch then runWatch settings files else runOnce settings files

end FormRules.Program

/-- The program. -/
def main (arguments : List String) : IO UInt32 := FormRules.Program.run arguments
