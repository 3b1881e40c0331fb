import SandboxClient.Detached.Supervision
import SandboxClient.Retry

/-!
# Running a command

The common entry for commands: in a session, which is created unless it exists, or detached.  A run
may be repeated under a backoff policy until the command exits with zero.
-/

namespace SandboxClient

def runOperation : Bytes := utf8 "arun"

namespace Sandbox

def runNormally (sandbox : Sandbox) (command : Bytes) (options : RunOptions) :
    Attempt Observation := do
  let session := options.session?.getD (utf8 "default")
  sandbox.ensureSession session
  sandbox.runInSession command session (some (Float.ofInt options.timeout))

def run (patience : Nat) (sandbox : Sandbox) (command : Bytes) (options : RunOptions) :
    Attempt Observation := do
  .ofExcept (sandbox.requireAlive runOperation)
  match options.mode with
  | .detached => Detached.run patience sandbox sandbox.logger command options
  | .normal => sandbox.runNormally command options

/-- The policy for repeated runs: three attempts, five and then ten seconds apart. -/
def defaultBackoff : Backoff where
  maxAttempts := 3
  initialDelay := 5000
  multiplier := 2
  jitter := false

/-- The error of a command that did not exit with zero. -/
def commandFailure (sandbox : Sandbox) (command : Bytes) (observation : Observation) : Error :=
  let reason :=
    if observation.failureReason.isEmpty then observation.output else observation.failureReason
  .remote {
    kind := .command
    operation := runOperation
    url := sandbox.url
    detail := utf8 "command `" ++ command ++ utf8 "` exited with " ++
      Detached.exitText observation.exitCode? ++ utf8 ": " ++ reason
    code := StatusCode.commandError }

/-- Runs a command that has to exit with zero. -/
def runOrFail (patience : Nat) (sandbox : Sandbox) (command : Bytes) (options : RunOptions) :
    Attempt Observation := do
  let observation ← sandbox.run patience command options
  if observation.succeeded then return observation
  else throw (sandbox.commandFailure command observation)

/-- Runs a command under a policy until it exits with zero. -/
def runWithRetry (patience : Nat) (sandbox : Sandbox) (command : Bytes) (options : RunOptions)
    (policy : Backoff := defaultBackoff) : Attempt Observation :=
  retryAttempt policy (some sandbox.logger) (sandbox.runOrFail patience command options)

end Sandbox

end SandboxClient
