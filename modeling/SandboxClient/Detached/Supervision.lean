import SandboxClient.Detached.Marker
import SandboxClient.Sandbox.Execution

/-!
# Supervised detached runs

A detached command is launched in a session, probed until it is gone or its time is up, and its output
is then read from the file it went to.  That a launch fails, that no process number comes back and that
the time runs out is reported in the result.
-/

namespace SandboxClient

namespace Detached

/-- The bound of the launch itself, in seconds. -/
def launchSeconds : Float := 30

/-- The least pause between two probes, in seconds. -/
def leastInterval : Int := 5

/-- A process that is waited for. -/
structure Task where
  processId : Int
  session : Bytes
  /-- How long the process is waited for, in milliseconds. -/
  budget : Int
  /-- The pause between two probes, in milliseconds. -/
  interval : Int
  deriving DecidableEq, Repr

/-- The command that succeeds as long as the process is there. -/
def Task.probe (task : Task) : Bytes :=
  utf8 "kill -0 " ++ Text.integer task.processId

/-- Whether a probe tells that the process is gone. -/
def isGone (observation : Observation) : Bool :=
  match observation.exitCode? with
  | some code => code != 0
  | none => false

/-- The bound of a probe, in milliseconds: two intervals, but no more than is left of the budget. -/
def Task.probeTimeout (task : Task) (elapsed : Int) : Int :=
  min (task.interval * 2) (task.budget - elapsed)

/-- Probes a process until it is gone or the budget is spent since `start`.  A probe that fails counts
as one that found the process gone. -/
def pollProcess (sandbox : Sandbox) (logger : Bytes) (task : Task) (start : Int) :
    (patience : Nat) → Program Bool
  | 0 => .stalled
  | patience + 1 => do
    let elapsed ← Clock.elapsedSince start
    let process := utf8 "process " ++ Text.integer task.processId
    if task.budget ≤ elapsed then
      .log logger .warning (sandbox.tagged
        (process ++ utf8 " still running after " ++ Text.integer task.budget ++ utf8 "ms"))
      return false
    else
      let seconds := Clock.millisToSeconds (task.probeTimeout elapsed)
      match ← (sandbox.runInSession task.probe task.session (some seconds)).outcome with
      | .ok observation =>
        if isGone observation then
          let finished ← Clock.elapsedSince start
          .log logger .info (sandbox.tagged
            (process ++ utf8 " finished after " ++ Text.integer finished ++ utf8 "ms"))
          return true
        else
          .sleep task.interval
          pollProcess sandbox logger task start patience
      | .error error =>
        .log logger .info (sandbox.tagged
          (process ++ utf8 " probe failed, treating as finished: " ++ error.message))
        return true

/-- Waits for a process: whether it was seen to be gone. -/
def awaitProcess (patience : Nat) (sandbox : Sandbox) (logger : Bytes) (task : Task) :
    Attempt Bool := do
  let _ ← .ofExcept sandbox.sandboxId
  let start ← Clock.now
  (pollProcess sandbox logger task start patience : Program Bool)

/-- The reason of a result without a process number. -/
def extractionFailed : Bytes := utf8 "PID extraction failed"

/-- The start of the reason of a result whose time ran out. -/
def notCompleted : Bytes := utf8 "Process did not complete successfully"

/-- The result of a launch whose output has no process number. -/
def withoutProcess : Observation where
  output := utf8 "Failed to submit command, nohup failed to extract PID"
  exitCode? := some 1
  failureReason := extractionFailed

/-- The command that reads the output file, whole or up to a limit that is not zero. -/
def readCommand (byteLimit? : Option Nat) (file : Bytes) : Bytes :=
  match byteLimit? with
  | some (limit + 1) =>
    utf8 "head -c " ++ Text.decimal (limit + 1) ++ utf8 " " ++ file
  | _ => utf8 "cat " ++ file

/-- The result of a wait, still without output. -/
def completion (completed : Bool) (waitTimeout : Int) : Observation :=
  if completed then { exitCode? := some 0 }
  else {
    exitCode? := some 1
    failureReason := notCompleted ++ utf8 ": not finished within " ++ Text.integer waitTimeout ++
      utf8 "s" }

/-- Where a run takes place. -/
structure Place where
  session : Bytes
  file : Bytes
  deriving DecidableEq, Repr

/-- The session and the output file of a run.  Without a session of its own the run gets a new one. -/
def choosePlace (sandbox : Sandbox) (options : RunOptions) : Attempt Place := do
  let timestamp ← Clock.epochMillis
  let _ ← .ofExcept sandbox.sandboxId
  let file :=
    options.outputFile?.getD (utf8 "/tmp/tmp_" ++ Text.integer timestamp ++ utf8 ".out")
  match options.session? with
  | some session => return { session, file }
  | none =>
    let session := utf8 "bash-" ++ Text.integer timestamp
    let _ ← sandbox.createSession { session }
    return { session, file }

def launch (sandbox : Sandbox) (command : Bytes) (place : Place) : Attempt Observation :=
  sandbox.runInSession (launchLine command place.file) place.session (some launchSeconds)

def taskOf (options : RunOptions) (place : Place) (processId : Nat) : Task where
  processId := processId
  session := place.session
  budget := options.waitTimeout * 1000
  interval := max leastInterval options.waitInterval * 1000

/-- Reads what a finished or given up process has written. -/
def collect (sandbox : Sandbox) (options : RunOptions) (place : Place) (result : Observation) :
    Attempt Observation := do
  if options.ignoreOutput then
    return { result with
      output := utf8 "Command executed in nohup mode without reading its output. Output file: " ++
        place.file }
  else
    let read ← sandbox.runInSession (readCommand options.byteLimit? place.file) place.session
    return { result with output := read.output }

/-- An exit code as it is shown in messages. -/
def exitText : Option Int32 → Bytes
  | some code => Text.integer code.toInt
  | none => utf8 "none"

/-- Goes on from the result of a launch: waits for the process and collects its output, unless the
launch failed or told no process. -/
def proceed (patience : Nat) (sandbox : Sandbox) (logger : Bytes) (options : RunOptions)
    (place : Place) (launched : Observation) : Attempt Observation := do
  if !launched.succeeded then
    Program.log logger .warning (sandbox.tagged
      (utf8 "nohup launch failed (exit=" ++ exitText launched.exitCode? ++ utf8 "): " ++
        launched.output))
    return launched
  else
    match processId? launched.output with
    | none =>
      Program.log logger .error
        (sandbox.tagged (utf8 "no PID in nohup output: " ++ launched.output))
      return withoutProcess
    | some processId =>
      let task := taskOf options place processId
      Program.log logger .info (sandbox.tagged
        (utf8 "nohup pid " ++ Text.decimal processId ++ utf8 " started in session " ++
          place.session ++ utf8 ", output " ++ place.file))
      let completed ← awaitProcess patience sandbox logger task
      collect sandbox options place (completion completed options.waitTimeout)

/-- Runs a command detached and waits for it. -/
def run (patience : Nat) (sandbox : Sandbox) (logger : Bytes) (command : Bytes)
    (options : RunOptions) : Attempt Observation := do
  let place ← choosePlace sandbox options
  let launched ← launch sandbox command place
  proceed patience sandbox logger options place launched

end Detached

end SandboxClient
