import SandboxClient.Group.Program
import SandboxClient.Http.Exchange
import SandboxClient.Sandbox.Lifecycle
import SandboxClient.Retry

/-!
# Groups of sandboxes

A group holds a fixed number of sandboxes made from one template.  It starts them in batches, each
member under its own retry policy, and stops them all at once.
-/

namespace SandboxClient

/-- A group program whose requests are carried over HTTP.  The group itself makes none. -/
def GroupProgram.overHttp {Result : Type} : GroupProgram Result → GroupProgram Result
  | .done result => .done result
  | .act action next => .act action fun answer => (next answer).overHttp
  | .fork tasks next => .fork (tasks.map Program.overHttp) fun outcomes => (next outcomes).overHttp

/-- The name of the logger that groups write to unless told otherwise. -/
def groupLogger : Bytes := utf8 "rock.sandbox.group"

/-- A group of sandboxes. -/
structure Group where
  config : GroupConfig
  logger : Bytes := groupLogger
  members : List Sandbox

namespace Group

/-- A new group.  The fresh keys are used, one per member, when the template gives none. -/
def create (config : GroupConfig) (freshKey : Nat → Bytes) (logger : Bytes := groupLogger) :
    Program (Except Error Group) :=
  match config.validate with
  | .error error => .done (.error error)
  | .ok () => do
    let members := (List.range config.size.toNat).map fun index =>
      Sandbox.create config.sandbox (freshKey index)
    .log logger .debug
      (utf8 "SandboxGroup created (size=" ++ Text.integer config.size ++ utf8 ", concurrency=" ++
        Text.integer config.startConcurrency ++ utf8 ", retries=" ++
        Text.integer config.startRetryTimes ++ utf8 ")")
    return .ok { config, logger, members }

/-- The policy for starting a member: attempts one second apart. -/
def startPolicy (config : GroupConfig) : Backoff where
  maxAttempts := config.startRetryTimes
  initialDelay := 1000
  multiplier := 1
  jitter := false

def startMember (patience : Nat) (group : Group) (member : Sandbox) : Program MemberOutcome :=
  retry (startPolicy group.config) (some group.logger) (Sandbox.start patience) member

def stopMember (member : Sandbox) : Program MemberOutcome := do
  return (.ok (), ← member.stop)

/-- Cuts a list into pieces of `width + 1` elements, the last one possibly shorter. -/
def batches {Element : Type} (width : Nat) (elements : List Element) : List (List Element) :=
  match elements with
  | [] => []
  | first :: rest => (first :: rest.take width) :: batches width (rest.drop width)
termination_by elements.length
decreasing_by
  simp only [List.length_drop, List.length_cons]
  omega

/-- Notes the members of a batch that failed, the first of which is number `index`, and answers the
error of the first one. -/
def firstFailure (logger : Bytes) : (index : Nat) → List MemberOutcome →
    GroupProgram (Option Error)
  | _, [] => .done none
  | index, (.ok (), _) :: outcomes => firstFailure logger (index + 1) outcomes
  | index, (.error error, _) :: outcomes => do
    .log logger .error
      (utf8 "Sandbox " ++ Text.decimal index ++ utf8 " of group failed to start: " ++
        error.message)
    let _ ← firstFailure logger (index + 1) outcomes
    return some error

/-- Starts one batch after the other until one has a failure.  `started` members were started before;
the members of the batches that were not reached stay as they are. -/
def startBatches (patience : Nat) (group : Group) (started : Nat) :
    List (List Sandbox) → GroupProgram (Except Error Unit × List Sandbox)
  | [] => .done (.ok (), [])
  | batch :: rest => do
    let outcomes ← .parallel (batch.map (startMember patience group))
    let members := outcomes.map Prod.snd
    match ← firstFailure group.logger started outcomes with
    | some error => return (.error error, members ++ rest.flatten)
    | none =>
      let reached := started + batch.length
      .log group.logger .info
        (utf8 "Started sandboxes " ++ Text.decimal (started + 1) ++ utf8 ".." ++
          Text.decimal reached ++ utf8 " of " ++ Text.decimal group.members.length)
      let (outcome, others) ← startBatches patience group reached rest
      return (outcome, members ++ others)

/-- Starts all members.  If a member fails, the error is that of the first failed member of its batch,
and later batches are not started. -/
def start (patience : Nat) (group : Group) : GroupProgram (Except Error Unit × Group) := do
  .log group.logger .info
    (utf8 "Starting " ++ Text.decimal group.members.length ++ utf8 " sandboxes with concurrency " ++
      Text.integer group.config.startConcurrency)
  let (outcome, members) ← startBatches patience group 0
    (batches (group.config.startConcurrency - 1).toNat group.members)
  return (outcome, { group with members })

/-- Stops all members. -/
def stop (group : Group) : GroupProgram Group := do
  .log group.logger .info
    (utf8 "Stopping " ++ Text.decimal group.members.length ++ utf8 " sandboxes")
  let outcomes ← .parallel (group.members.map stopMember)
  return { group with members := outcomes.map Prod.snd }

def member (group : Group) (index : Nat) : Except Error Sandbox :=
  match group.members[index]? with
  | some member => .ok member
  | none => .error (.noSuchIndex index group.members.length)

end Group

end SandboxClient
