import SandboxClient.Clock
import SandboxClient.Group.Program
import SandboxClient.Json.Parser
import SandboxClient.Log.Registry

/-!
# Simulated worlds

A world in which programs run without a service and without waiting: time is a number, calls are
answered from a script, and what happens is kept in order.  Each task of a group has a time line of its
own, which starts at the time of the group, unless all share the steady clock of the process.
-/

namespace SandboxClient

namespace Simulation

/-- A call to the service, or its exchange one layer down. -/
inductive Call where
  | request (request : Request)
  | transfer (transfer : Transfer)

namespace Call

def url : Call → Bytes
  | .request sent => sent.url
  | .transfer sent => sent.url

/-- The last segment of the address of a call, before its query. -/
def endpoint (call : Call) : Bytes :=
  (Text.splitOn 47 (call.url.takeWhile (· != 63))).getLastD []

/-- The JSON value that a call posts, null if there is none. -/
def body : Call → Json
  | .request { payload := .post body, .. } => body
  | .transfer { content := .post text, .. } => (Json.parse text).toOption.getD .null
  | _ => .null

/-- A header of a call; exchanges have lines instead. -/
def header? (name : Bytes) : Call → Option Bytes
  | .request sent => Dictionary.get? sent.headers name
  | .transfer _ => none

end Call

/-- One scripted answer, which takes `delay` milliseconds. -/
structure Reply where
  delay : Int := 0
  answer : Request → Except Error Json := fun _ => .ok .null
  outcome : TransferOutcome := {}

/-- The outcome of a scripted transfer, with words for its result code. -/
def Reply.transferOutcome (reply : Reply) : TransferOutcome :=
  { reply.outcome with
    resultText := utf8 "curl error " ++ Text.integer reply.outcome.resultCode }

/-- The answers to the calls of one kind: one after the other, the last one again and again. -/
structure Route where
  accepts : Call → Bool
  replies : List Reply
  calls : Nat := 0

/-- What can be seen of a run. -/
inductive Occurrence where
  | called (call : Call)
  | slept (millis : Int)
  | wrote (line : Log.Line)
  | printed (stream : Stream) (text : Bytes)

/-- The file tree of a system that nobody has used yet. -/
def systemFiles : FileTree :=
  let place := fun path => FileTree.resolve [] (utf8 path)
  let directories := ["/dev", "/etc", "/home", "/mnt", "/opt", "/root", "/run", "/srv", "/tmp",
    "/usr/bin", "/usr/lib", "/usr/local/bin", "/usr/share", "/var/lib", "/var/log", "/var/tmp"]
  let tree := (directories.map place).foldl FileTree.withDirectory ([] : FileTree)
  [("/proc", FileNode.sealedDirectory), ("/sys", .sealedDirectory), ("/dev/full", .device),
    ("/dev/null", .device), ("/dev/zero", .device)].foldl
    (fun tree entry => tree.put (place entry.1) entry.2) tree

/-- A simulated world. -/
structure Stage where
  /-- The wall clock at the start, in milliseconds since the epoch. -/
  epoch : Int := 1700000000000
  /-- The nanoseconds that have passed. -/
  passed : Int := 0
  /-- The nanoseconds that have passed for tasks. -/
  passedFor : List (Actor × Int) := []
  /-- Whether all actors share a steady clock, which waits for positive durations only. -/
  isSteady : Bool := false
  routes : List Route := []
  /-- The answer to calls that no route accepts. -/
  fallback : Reply := {}
  /-- The resources of the transfer library that cannot be had. -/
  refused : List TransferResource := []
  registry : Log.Registry := {}
  files : FileTree := []
  directory : Location := []
  /-- What happened and who caused it, last first. -/
  history : List (Actor × Occurrence) := []

namespace Stage

/-! ## Time -/

/-- The nanoseconds that have passed for an actor. -/
def time (stage : Stage) (actor : Actor) : Int :=
  if stage.isSteady then stage.passed
  else ((stage.passedFor.find? fun entry => entry.1 = actor).map Prod.snd).getD stage.passed

def setTime (stage : Stage) (actor : Actor) (nanos : Int) : Stage :=
  if stage.isSteady || actor = .group then { stage with passed := nanos }
  else
    let others := stage.passedFor.filter fun entry => entry.1 ≠ actor
    { stage with passedFor := (actor, nanos) :: others }

/-- Lets milliseconds pass for an actor. -/
def advance (stage : Stage) (actor : Actor) (millis : Int) : Stage :=
  stage.setTime actor (stage.time actor + millis * 1000000)

def clock (stage : Stage) (actor : Actor) : SteadyClock where
  startEpoch := stage.epoch * 1000000
  passed := stage.time actor

/-! ## Actions -/

/-- Keeps what happened. -/
def note (stage : Stage) (actor : Actor) (occurrence : Occurrence) : Stage :=
  { stage with history := (actor, occurrence) :: stage.history }

/-- Waits.  A steady clock does not wait for durations that are not positive. -/
def sleep (stage : Stage) (actor : Actor) (millis : Int) : Stage :=
  if stage.isSteady then
    if SteadyClock.waits millis then
      (stage.note actor (.slept millis)).setTime actor ((stage.clock actor).sleep millis).passed
    else stage
  else (stage.note actor (.slept millis)).advance actor millis

/-- Keeps the lines of a log record. -/
def noteLines (stage : Stage) (actor : Actor) (lines : List Log.Line) : Stage :=
  lines.foldl (fun stage line => stage.note actor (.wrote line)) stage

def log (stage : Stage) (actor : Actor) (record : Log.Record) : Stage :=
  let (registry, lines) := stage.registry.deliver record
  { stage with registry }.noteLines actor lines

/-- Sets up logging. -/
def openLogging (stage : Stage) (actor : Actor) (config : LoggingConfig) : Stage :=
  let (registry, files, complaints) := stage.registry.configure stage.files stage.directory config
  { complaints.foldl (fun stage record => stage.log actor record) stage with registry, files }

/-- The next answer of the first route that accepts a call, and the routes afterwards. -/
def nextReply? (call : Call) : List Route → Option Reply × List Route
  | [] => (none, [])
  | route :: rest =>
    if route.accepts call then
      (route.replies[min route.calls (route.replies.length - 1)]?,
        { route with calls := route.calls + 1 } :: rest)
    else
      let (reply, after) := nextReply? call rest
      (reply, route :: after)

def reply (stage : Stage) (actor : Actor) (call : Call) : Reply × Stage :=
  let (found, routes) := nextReply? call stage.routes
  let reply := found.getD stage.fallback
  (reply, ({ stage with routes }.note actor (.called call)).advance actor reply.delay)

/-- Answers an action.  A draw is half its bound. -/
def answer (actor : Actor) (action : Action) (stage : Stage) : action.Answer × Stage :=
  match action with
  | .request request =>
    let (reply, after) := stage.reply actor (.request request)
    (reply.answer request, after)
  | .transfer transfer =>
    let (reply, after) := stage.reply actor (.transfer transfer)
    (reply.transferOutcome, after)
  | .acquire resource => (!stage.refused.contains resource, stage)
  | .sleep millis => ((), stage.sleep actor millis)
  | .now => (stage.time actor, stage)
  | .epochMillis => ((stage.clock actor).epochMillis, stage)
  | .draw bound => (truncateToInt64 (bound / 2), stage)
  | .loadFile path => (stage.files.lookUp stage.directory path, stage)
  | .log record => ((), stage.log actor record)
  | .print stream text => ((), stage.note actor (.printed stream text))
  | .openLogging config => ((), stage.openLogging actor config)
  | .closeLogging => ((), { stage with registry := stage.registry.shutdown })

/-! ## Runs -/

def world : GroupWorld Stage := ⟨answer⟩

/-- A stage at the same time on which nothing has happened yet. -/
def cleared (stage : Stage) : Stage :=
  { stage with history := [], passedFor := [] }

/-- Who did something, in the order of their first deeds. -/
def actors (stage : Stage) : List Actor :=
  (stage.history.reverse.map Prod.fst).eraseDups

/-- What an actor did, in order. -/
def deeds (stage : Stage) (actor : Actor) : List Occurrence :=
  stage.history.reverse.filterMap fun entry => if entry.1 = actor then some entry.2 else none

def printedOn (stage : Stage) (stream : Stream) : Bytes :=
  (stage.deeds .group).flatMap fun deed =>
    match deed with
    | .printed other text => if other = stream then text else []
    | _ => []

/-- Runs a program on a cleared stage: its result, if it does not stall, and the stage afterwards. -/
def play {Result : Type} (stage : Stage) (program : Program Result) : Option Result × Stage :=
  let run := program.run (world.seenBy .group) stage.cleared
  (run.result?, run.state)

/-- Runs a group program on a cleared stage, one task after the other. -/
def playGroup {Result : Type} (stage : Stage) (program : GroupProgram Result) :
    Option Result × Stage :=
  let run := program.runFrom world (fun _ => []) 0 stage.cleared
  (run.result?, run.state)

end Stage

end Simulation

end SandboxClient
