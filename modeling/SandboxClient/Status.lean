import SandboxClient.Observation

/-!
# Status of a sandbox

What the service reports about a sandbox.
-/

namespace SandboxClient

structure SandboxStatus where
  sandboxId : Bytes := []
  hostName : Bytes := []
  hostAddress : Bytes := []
  isAlive : Bool := true
  image : Bytes := []
  cpus? : Option Binary64 := none
  memory : Bytes := []
  /-- The raw status of the phases of the start. -/
  phases : Json := .null

namespace SandboxStatus

/-- Reads a status.  Liveness is taken from a boolean member and assumed where there is none. -/
def ofJson (value : Json) : Except Error SandboxStatus := do
  if value.isObject then
    return {
      sandboxId := ← value.textField (utf8 "sandbox_id")
      hostName := ← value.textField (utf8 "host_name")
      hostAddress := ← value.textField (utf8 "host_ip")
      isAlive :=
        match value.member? (utf8 "is_alive") with
        | some (.boolean alive) => alive
        | _ => true
      image := ← value.textField (utf8 "image")
      cpus? := (value.member? (utf8 "cpus")).bind Json.toDouble?
      memory := ← value.textField (utf8 "memory")
      phases := (value.member? (utf8 "status")).getD .null }
  else return {}

end SandboxStatus

/-- Whether a sandbox is alive, and where. -/
structure Liveness where
  isAlive : Bool := false
  message : Bytes := []
  deriving DecidableEq, Repr

/-- A request for a named shell session. -/
structure SessionRequest where
  session : Bytes := utf8 "default"
  /-- Files that the shell reads when it starts. -/
  startupSource : List Bytes := []
  environmentEnabled : Bool := false
  environment : Dictionary Bytes := []
  remoteUser : Bytes := []
  deriving DecidableEq

/-- A session request as a JSON object; the environment and the user are left out if empty. -/
def SessionRequest.toJson (request : SessionRequest) : Json :=
  let environment : List (Bytes × Json) :=
    if request.environment.isEmpty then []
    else [(utf8 "env", .stringMembers request.environment)]
  let user : List (Bytes × Json) :=
    if request.remoteUser.isEmpty then []
    else [(utf8 "remote_user", .string request.remoteUser)]
  .object (environment ++ [(utf8 "env_enable", .boolean request.environmentEnabled)] ++ user ++ [
    (utf8 "session", .string request.session),
    (utf8 "startup_source", .strings request.startupSource)])

/-- What the service reports about a new session. -/
structure SessionResponse where
  output : Bytes := []
  sessionType : Bytes := utf8 "bash"
  deriving DecidableEq, Repr

end SandboxClient
