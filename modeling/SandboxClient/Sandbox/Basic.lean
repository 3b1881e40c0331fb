import SandboxClient.Config
import SandboxClient.Envelope
import SandboxClient.Clock

/-!
# Sandbox handles

A handle on one remote sandbox: its configuration, the state of its life cycle and the identity it
got from the service.  This file holds the handle, its guards and the two ways of calling the
service: posting to an endpoint and asking for the status.
-/

namespace SandboxClient

/-- The states in the life of a sandbox. -/
inductive Lifecycle where
  | uninitialized
  | starting
  | alive
  | stopped
  deriving DecidableEq, Repr

def Lifecycle.name : Lifecycle → Bytes
  | .uninitialized => utf8 "UNINITIALIZED"
  | .starting => utf8 "STARTING"
  | .alive => utf8 "ALIVE"
  | .stopped => utf8 "STOPPED"

/-- The name of the logger that sandboxes write to unless told otherwise. -/
def sandboxLogger : Bytes := utf8 "rock.sandbox"

/-- A handle on a sandbox.  The identity is empty until a start succeeds. -/
structure Sandbox where
  config : SandboxConfig
  routeKey : Bytes
  logger : Bytes := sandboxLogger
  state : Lifecycle := .uninitialized
  id : Bytes := []
  hostName : Bytes := []
  hostAddress : Bytes := []

namespace Sandbox

/-- A new handle.  The fresh key is used when the configuration gives none. -/
def create (config : SandboxConfig) (freshKey : Bytes) (logger : Bytes := sandboxLogger) : Sandbox :=
  { config, routeKey := config.routeKey?.getD freshKey, logger }

/-- The error of a handle that would have no way to reach the service. -/
def unreachable : Error :=
  .invalidParameter (utf8 "Sandbox requires a transport")

/-- The address that the endpoints of the service are under. -/
def url (sandbox : Sandbox) : Bytes :=
  sandbox.config.baseUrl ++ utf8 "/apis/envs/sandbox/v1"

def endpointUrl (sandbox : Sandbox) (endpoint : Bytes) : Bytes :=
  sandbox.url ++ utf8 "/" ++ endpoint

/-- The headers of every request. -/
def headers (sandbox : Sandbox) : Dictionary Bytes :=
  sandbox.config.headers sandbox.routeKey

/-- Whether the handle has an identity. -/
def isStarted (sandbox : Sandbox) : Bool :=
  !sandbox.id.isEmpty

/-- The identity of a handle that has one. -/
def requireId (sandbox : Sandbox) (operation : Bytes) : Except Error Bytes :=
  if sandbox.id.isEmpty then .error (.notStarted operation) else .ok sandbox.id

/-- The identity of the handle. -/
def sandboxId (sandbox : Sandbox) : Except Error Bytes :=
  sandbox.requireId (utf8 "get sandbox id")

/-- Refuses an operation on a handle that is not alive. -/
def requireAlive (sandbox : Sandbox) (operation : Bytes) : Except Error Unit :=
  if sandbox.id.isEmpty || sandbox.state ≠ .alive then .error (.notStarted operation) else .ok ()

/-- The bound of calls that have no timeout of their own, in milliseconds. -/
def defaultTimeout : Int := 300000

/-- Writes to the logger of the handle. -/
def log (sandbox : Sandbox) (level : Log.Level) (message : Bytes) : Program Unit :=
  .log sandbox.logger level message

/-- A message about a sandbox with an identity. -/
def tagged (sandbox : Sandbox) (message : Bytes) : Bytes :=
  utf8 "[" ++ sandbox.id ++ utf8 "] " ++ message

/-- Posts a body to an endpoint and answers the whole response. -/
def post (sandbox : Sandbox) (endpoint : Bytes) (body : Json) (timeout : Int) : Attempt Json :=
  .ofProgram (.request {
    url := sandbox.endpointUrl endpoint
    headers := sandbox.headers
    timeout
    payload := .post body })

/-- Posts a body to an endpoint and opens the envelope of the response. -/
def call (sandbox : Sandbox) (operation endpoint : Bytes) (body : Json) (timeout : Int) :
    Attempt Json := do
  let url := sandbox.endpointUrl endpoint
  sandbox.log .debug (utf8 "POST " ++ url ++ utf8 " (" ++ operation ++ utf8 ")")
  let response ← sandbox.post endpoint body timeout
  .ofExcept (Envelope.unwrap operation url response)

/-- A short description of the handle. -/
def describe (sandbox : Sandbox) : Bytes :=
  utf8 "Sandbox(sandbox_id=" ++ sandbox.id ++ utf8 ", host_name=" ++ sandbox.hostName ++
    utf8 ", image=" ++ sandbox.config.image ++ utf8 ", cluster=" ++ sandbox.config.cluster ++
    utf8 ", state=" ++ sandbox.state.name ++ utf8 ")"

/-- What is logged when a handle is given up: only a live sandbox leaves something behind. -/
def release (sandbox : Sandbox) : Program Unit :=
  if sandbox.state = .alive then
    sandbox.log .debug
      (utf8 "Sandbox " ++ sandbox.id ++ utf8 " released while alive, remote auto clear applies")
  else .done ()

end Sandbox

end SandboxClient
