import SandboxClient.Sandbox.Basic
import SandboxClient.Status
import SandboxClient.Command

/-!
# Commands and sessions

Single commands run outside any session.  A session is a named shell that keeps its state from one
command to the next.  None of these operations changes the handle, and all need it to be alive.
-/

namespace SandboxClient

namespace Sandbox

def commandBody (sandbox : Sandbox) (command : Command) : Json :=
  let directory : List (Bytes × Json) :=
    if command.directory.isEmpty then [] else [(utf8 "cwd", .string command.directory)]
  let environment : List (Bytes × Json) :=
    if command.environment.isEmpty then []
    else [(utf8 "env", .stringMembers command.environment)]
  let text : Json :=
    if command.arguments.isEmpty then .string command.shell else .strings command.arguments
  .object ([(utf8 "command", text)] ++ directory ++ environment ++ [
    (utf8 "sandbox_id", .string sandbox.id),
    (utf8 "timeout", .integer command.timeout)])

/-- Runs a single command. -/
def execute (sandbox : Sandbox) (command : Command) : Attempt CommandResponse := do
  let operation := utf8 "execute command"
  .ofExcept (sandbox.requireAlive operation)
  sandbox.log .debug (sandbox.tagged (utf8 "execute: " ++ command.display))
  let result ← sandbox.call operation (utf8 "execute") (sandbox.commandBody command)
    (max defaultTimeout (command.timeout * 1000))
  .ofExcept (CommandResponse.ofJson result)

def createSession (sandbox : Sandbox) (request : SessionRequest) : Attempt SessionResponse := do
  let operation := utf8 "create session"
  .ofExcept (sandbox.requireAlive operation)
  let body := request.toJson.withMember (utf8 "sandbox_id") (.string sandbox.id)
  let result ← sandbox.call operation (utf8 "create_session") body defaultTimeout
  sandbox.log .debug
    (sandbox.tagged (utf8 "session " ++ request.session ++ utf8 " created"))
  let sessionType := result.text (utf8 "session_type")
  return {
    output := result.text (utf8 "output")
    sessionType := if sessionType.isEmpty then utf8 "bash" else sessionType }

def closeSession (sandbox : Sandbox) (session : Bytes) : Attempt Unit := do
  let operation := utf8 "close session"
  .ofExcept (sandbox.requireAlive operation)
  let body := Json.object [
    (utf8 "sandbox_id", .string sandbox.id),
    (utf8 "session", .string session)]
  let _ ← sandbox.call operation (utf8 "close_session") body defaultTimeout

def saysAlreadyExists : Error → Bool
  | .remote rejection =>
    Text.contains (utf8 "already exists") (Error.message (.remote rejection))
  | _ => false

/-- Creates a session unless there is one of that name. -/
def ensureSession (sandbox : Sandbox) (session : Bytes) : Attempt Unit := do
  match ← (sandbox.createSession { session }).settled with
  | .ok _ => return ()
  | .error error =>
    if saysAlreadyExists error then
      sandbox.log .debug (sandbox.tagged (utf8 "session " ++ session ++ utf8 " already exists"))
    else throw error

def sessionBody (sandbox : Sandbox) (command session : Bytes) (seconds? : Option Float) : Json :=
  let timeout : List (Bytes × Json) :=
    match seconds? with
    | some seconds => [(utf8 "timeout", .double (.ofFloat seconds))]
    | none => []
  .object ([
    (utf8 "action_type", .string (utf8 "bash")),
    (utf8 "command", .string command),
    (utf8 "sandbox_id", .string sandbox.id),
    (utf8 "session", .string session)] ++ timeout)

/-- The bound of a command in a session, in milliseconds. -/
def sessionTimeout (seconds? : Option Float) : Int :=
  match seconds? with
  | some seconds => Clock.secondsToMillis seconds
  | none => defaultTimeout

def runInSession (sandbox : Sandbox) (command session : Bytes) (seconds? : Option Float := none) :
    Attempt Observation := do
  let operation := utf8 "run in session"
  .ofExcept (sandbox.requireAlive operation)
  let result ← sandbox.call operation (utf8 "run_in_session")
    (sandbox.sessionBody command session seconds?) (sessionTimeout seconds?)
  .ofExcept (Observation.ofJson result)

end Sandbox

end SandboxClient
