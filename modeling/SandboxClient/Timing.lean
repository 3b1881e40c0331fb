import SandboxClient.Clock
import SandboxClient.Decimal.Layout

/-!
# Timed operations

Runs an operation between two log records, the second of which says how long it took and, if it
failed, why.  The outcome is that of the operation.
-/

namespace SandboxClient

/-- Elapsed milliseconds as seconds with two places. -/
def elapsedText (millis : Int) : Bytes :=
  Decimal.twoPlaces (.ofFloat (Clock.millisToSeconds millis)) ++ utf8 "s"

/-- Logs how an operation that started at `start` ended. -/
def logOutcome {Result : Type} (logger label : Bytes) (start : Int) (outcome : Except Error Result) :
    Program Unit := do
  let elapsed ← Clock.elapsedSince start
  match outcome with
  | .ok _ =>
    .log logger .info (label ++ utf8 " completed (elapsed: " ++ elapsedText elapsed ++ utf8 ")")
  | .error error =>
    .log logger .error
      (label ++ utf8 " failed after " ++ elapsedText elapsed ++ utf8 ": " ++ error.message)

/-- Runs an operation that changes a state and logs its start and its end. -/
def timed {Result State : Type} (logger sandboxId operation : Bytes)
    (program : Program (Except Error Result × State)) : Program (Except Error Result × State) := do
  let start ← Clock.now
  let label := utf8 "[" ++ sandboxId ++ utf8 "] " ++ operation
  .log logger .info (label ++ utf8 " started")
  let (outcome, state) ← program
  logOutcome logger label start outcome
  return (outcome, state)

/-- Runs an attempt that keeps no state and logs its start and its end. -/
def timedAttempt {Result : Type} (logger sandboxId operation : Bytes) (attempt : Attempt Result) :
    Attempt Result :=
  .ofProgram do
    let (outcome, _) ← timed logger sandboxId operation do return (← attempt.outcome, ())
    return outcome

end SandboxClient
