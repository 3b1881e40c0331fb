import SandboxClient.Sandbox.Basic
import SandboxClient.Status

/-!
# Life cycle of a sandbox

Starting a sandbox asks the service for one and then looks at its status until it is alive or the
startup timeout has passed.  A start that fails leaves a stopped handle without an identity.  Stopping
never fails: a handle that was alive is stopped whatever the service says.
-/

namespace SandboxClient

namespace Sandbox

/-- The pause before the first look at the status, in milliseconds. -/
def settleDelay : Int := 2000

/-- The bound of one look at the status, in milliseconds. -/
def statusTimeout : Int := 10000

/-- The pause between two looks at the status, in milliseconds. -/
def statusInterval : Int := 3000

def enter (sandbox : Sandbox) (state : Lifecycle) : Program Sandbox := do
  let name := if sandbox.id.isEmpty then utf8 "<unstarted>" else sandbox.id
  sandbox.log .debug
    (utf8 "Sandbox " ++ name ++ utf8 " state: " ++ sandbox.state.name ++ utf8 " -> " ++ state.name)
  return { sandbox with state }

/-! ## Status -/

/-- Asks for the status of the sandbox with an identity. -/
def fetchStatus (sandbox : Sandbox) (id : Bytes) (timeout : Int) : Attempt SandboxStatus := do
  let url := sandbox.endpointUrl (utf8 "get_status?sandbox_id=" ++ id)
  let response ← Attempt.ofProgram (.request
    { url, headers := sandbox.headers, timeout, payload := .get })
  let result ← .ofExcept (Envelope.unwrap (utf8 "get status") url response)
  .ofExcept (SandboxStatus.ofJson result)

def status (sandbox : Sandbox) : Attempt SandboxStatus := do
  let id ← .ofExcept (sandbox.requireId (utf8 "get status"))
  sandbox.fetchStatus id defaultTimeout

/-- Whether the sandbox is alive, and on which host. -/
def liveness (sandbox : Sandbox) : Attempt Liveness := do
  let status ← sandbox.status
  return { isAlive := status.isAlive, message := status.hostName }

/-! ## Start -/

/-- The identity and the host of a sandbox. -/
structure Placement where
  id : Bytes
  hostName : Bytes
  hostAddress : Bytes
  deriving DecidableEq, Repr

/-- What the service is told to start. -/
def startBody (sandbox : Sandbox) : Json :=
  let minutes := Json.integer (sandbox.config.autoClearSeconds.tdiv 60)
  .object [
    (utf8 "auto_clear_time", minutes),
    (utf8 "auto_clear_time_minutes", minutes),
    (utf8 "cpus", .double sandbox.config.cpus),
    (utf8 "image", .string sandbox.config.image),
    (utf8 "memory", .string sandbox.config.memory),
    (utf8 "startup_timeout", .integer sandbox.config.startupTimeout)]

/-- Asks the service for a sandbox.  A response without an identity is a failure. -/
def schedule (sandbox : Sandbox) : Attempt Placement := do
  let operation := utf8 "start sandbox"
  let endpoint := utf8 "start_async"
  let result ← sandbox.call operation endpoint sandbox.startBody defaultTimeout
  let placement : Placement := {
    id := result.text (utf8 "sandbox_id")
    hostName := result.text (utf8 "host_name")
    hostAddress := result.text (utf8 "host_ip") }
  if placement.id.isEmpty then
    throw (Error.call operation (sandbox.endpointUrl endpoint)
      (utf8 "response carries no sandbox_id"))
  return placement

/-- The time a start may take after the settle delay, in milliseconds. -/
def startBudget (sandbox : Sandbox) : Int :=
  sandbox.config.startupTimeout * 1000

/-- Looks at the status until the sandbox is alive or the budget is spent since `start`.  A look that
fails counts as one that found the sandbox not alive. -/
def pollStatus (sandbox : Sandbox) (id : Bytes) (start : Int) : (patience : Nat) →
    Program (Except Error SandboxStatus)
  | 0 => .stalled
  | patience + 1 => do
    let elapsed ← Clock.elapsedSince start
    if sandbox.startBudget ≤ elapsed then
      return .error (.startTimeout id sandbox.config.startupTimeout)
    else
      let outcome ←
        (sandbox.fetchStatus id (min statusTimeout (sandbox.startBudget - elapsed))).outcome
      match outcome with
      | .ok status =>
        if status.isAlive then return .ok status
        else
          .sleep statusInterval
          sandbox.pollStatus id start patience
      | .error error =>
        sandbox.log .debug
          (utf8 "Status check for " ++ id ++ utf8 " failed, retrying: " ++ error.message)
        .sleep statusInterval
        sandbox.pollStatus id start patience

/-- Waits until the sandbox with an identity is alive. -/
def awaitAlive (patience : Nat) (sandbox : Sandbox) (id : Bytes) :
    Program (Except Error SandboxStatus) := do
  .sleep settleDelay
  let start ← Clock.now
  sandbox.pollStatus id start patience

/-- A handle whose start failed: stopped and without an identity. -/
def abandon (sandbox : Sandbox) : Program Sandbox :=
  enter { sandbox with id := [], hostName := [], hostAddress := [] } .stopped

/-- The first of two texts that is not empty. -/
def orElse (text fallback : Bytes) : Bytes :=
  if text.isEmpty then fallback else text

/-- Starts the sandbox, from any state but alive. -/
def launch (patience : Nat) (sandbox : Sandbox) : Program (Except Error Unit × Sandbox) := do
  let sandbox ← sandbox.enter .starting
  sandbox.log .info
    (utf8 "Starting sandbox (image=" ++ sandbox.config.image ++ utf8 ", memory=" ++
      sandbox.config.memory ++ utf8 ", cpus=" ++
      Decimal.Layout.message.render sandbox.config.cpus ++ utf8 ")")
  match ← sandbox.schedule.outcome with
  | .error error =>
    sandbox.log .error (utf8 "Failed to start sandbox: " ++ error.message)
    return (.error error, ← sandbox.abandon)
  | .ok placement =>
    sandbox.log .info
      (utf8 "Sandbox " ++ placement.id ++ utf8 " scheduled on " ++ placement.hostName ++
        utf8 ", waiting until alive")
    match ← awaitAlive patience sandbox placement.id with
    | .error error =>
      sandbox.log .warning
        (utf8 "Sandbox " ++ placement.id ++
          utf8 " was scheduled but not started, releasing handle (reclaim it or wait for auto clear): " ++
          error.message)
      return (.error error, ← sandbox.abandon)
    | .ok status =>
      let sandbox ← enter
        { sandbox with
          id := placement.id
          hostName := orElse status.hostName placement.hostName
          hostAddress := orElse status.hostAddress placement.hostAddress }
        .alive
      sandbox.log .info
        (utf8 "Sandbox " ++ sandbox.id ++ utf8 " is alive (host=" ++ sandbox.hostName ++
          utf8 ", ip=" ++ sandbox.hostAddress ++ utf8 ")")
      return (.ok (), sandbox)

/-- Starts the sandbox.  A live one is left alone, and a configuration that is not valid is refused
before anything happens. -/
def start (patience : Nat) (sandbox : Sandbox) : Program (Except Error Unit × Sandbox) :=
  if sandbox.state = .alive then do
    sandbox.log .warning (utf8 "Sandbox " ++ sandbox.id ++ utf8 " already alive")
    return (.ok (), sandbox)
  else
    match sandbox.config.validate with
    | .error error => .done (.error error, sandbox)
    | .ok () => launch patience sandbox

/-! ## Stop -/

/-- Stops the sandbox.  A handle that has no identity or is stopped is left alone. -/
def stop (sandbox : Sandbox) : Program Sandbox :=
  if sandbox.id.isEmpty || sandbox.state = .stopped then .done sandbox
  else do
    sandbox.log .info (utf8 "Stopping sandbox " ++ sandbox.id)
    let body := Json.object [(utf8 "sandbox_id", .string sandbox.id)]
    match ← (sandbox.call (utf8 "stop sandbox") (utf8 "stop") body defaultTimeout).outcome with
    | .ok _ => sandbox.enter .stopped
    | .error error =>
      sandbox.log .warning
        (utf8 "Failed to stop sandbox " ++ sandbox.id ++ utf8 ", IGNORE: " ++ error.message)
      sandbox.enter .stopped

end Sandbox

end SandboxClient
