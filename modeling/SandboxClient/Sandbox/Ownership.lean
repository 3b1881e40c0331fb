import SandboxClient.Sandbox.Execution

/-!
# Ownership and permissions

Changes the owner or the mode of paths in a sandbox by a single command.
-/

namespace SandboxClient

/-- What became of a change: the message is the response of the command as a JSON document. -/
structure ChangeResponse where
  success : Bool := false
  message : Bytes := []
  deriving DecidableEq, Repr

namespace Ownership

def logger : Bytes := utf8 "rock.sandbox.fs"

/-- The bound of a change, in seconds. -/
def timeout : Int := 300

/-- Runs the command of a change. -/
def apply (sandbox : Sandbox) (name : Bytes) (arguments : List Bytes) : Attempt ChangeResponse := do
  let command := Command.ofArguments arguments timeout
  Program.log logger .info (name ++ utf8 " command: " ++ command.display)
  let response ← sandbox.execute command
  let message ← .ofExcept response.toJson.document
  return { success := response.succeeded, message }

/-- The option that makes a change apply to whole directories. -/
def recursiveOption (recursive : Bool) : List Bytes :=
  if recursive then [utf8 "-R"] else []

/-- Refuses a change of no paths. -/
def requirePaths (paths : List Bytes) : Except Error Unit :=
  if paths.isEmpty then .error (.invalidParameter (utf8 "paths is empty")) else .ok ()

/-- Makes a user, and the group of the same name, the owner of paths. -/
def changeOwner (sandbox : Sandbox) (user : Bytes) (paths : List Bytes) (recursive : Bool) :
    Attempt ChangeResponse := do
  .ofExcept (requirePaths paths)
  if user.isEmpty then throw (Error.invalidParameter (utf8 "remote_user is empty"))
  apply sandbox (utf8 "chown")
    ([utf8 "chown"] ++ recursiveOption recursive ++ [user ++ utf8 ":" ++ user] ++ paths)

def changeMode (sandbox : Sandbox) (mode : Bytes) (paths : List Bytes) (recursive : Bool) :
    Attempt ChangeResponse := do
  .ofExcept (requirePaths paths)
  apply sandbox (utf8 "chmod") ([utf8 "chmod"] ++ recursiveOption recursive ++ [mode] ++ paths)

end Ownership

end SandboxClient
