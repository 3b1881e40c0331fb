import SandboxClient.Sandbox.Run
import SandboxClient.Sandbox.Files

/-!
# Scripts

A script is written to the sandbox, run detached and removed again.  What goes wrong on the way is
reported in the result; removing the script never changes it.
-/

namespace SandboxClient

/-- A script to run.  Times are in seconds. -/
structure Script where
  content : Bytes
  /-- The name of the script; one after the time if none is given. -/
  name? : Option Bytes := none
  waitTimeout : Int := 300
  waitInterval : Int := 10
  /-- Whether the script is removed afterwards. -/
  cleanup : Bool := true
  deriving DecidableEq

namespace Script

def logger : Bytes := utf8 "rock.sandbox.process"

def options (script : Script) : RunOptions :=
  { mode := .detached, waitTimeout := script.waitTimeout, waitInterval := script.waitInterval }

/-- Writes a script and runs it. -/
def submit (patience : Nat) (sandbox : Sandbox) (script : Script) (path : Bytes) :
    Attempt Observation := do
  Program.log logger .info (sandbox.tagged (utf8 "Uploading script to " ++ path))
  let written ← sandbox.putFile path script.content
  if written.success then
    Program.log logger .info (sandbox.tagged
      (utf8 "Executing script: " ++ path ++ utf8 " (timeout=" ++ Text.integer script.waitTimeout ++
        utf8 "s)"))
    sandbox.run patience (utf8 "bash " ++ path) script.options
  else
    let output := utf8 "Failed to upload script: " ++ written.message
    Program.log logger .error (sandbox.tagged output)
    return { output, exitCode? := some 1, failureReason := utf8 "Script upload failed" }

/-- The result of a script that could not be submitted. -/
def failed (error : Error) : Observation :=
  let output := utf8 "Script execution failed: " ++ error.message
  { output, exitCode? := some 1, failureReason := output }

def remove (sandbox : Sandbox) (path : Bytes) : Program Unit := do
  .log logger .info (sandbox.tagged (utf8 "Cleaning up script: " ++ path))
  let command := Command.ofArguments [utf8 "rm", utf8 "-f", path] 30
  match ← (sandbox.execute command).outcome with
  | .ok _ => return ()
  | .error error =>
    .log logger .warning (sandbox.tagged
      (utf8 "Failed to cleanup script " ++ path ++ utf8 ": " ++ error.message))

def choosePath (script : Script) : Program Bytes := do
  match script.name? with
  | some name => return utf8 "/tmp/" ++ name
  | none =>
    let timestamp ← Clock.epochMillis
    return utf8 "/tmp/script_" ++ Text.integer timestamp ++ utf8 ".sh"

/-- The result of a script on a handle with an identity. -/
def observe (patience : Nat) (sandbox : Sandbox) (script : Script) : Program Observation := do
  let path ← script.choosePath
  let result ←
    match ← (script.submit patience sandbox path).outcome with
    | .ok observation => pure observation
    | .error error => do
      .log logger .error (sandbox.tagged (failed error).output)
      pure (failed error)
  if script.cleanup then remove sandbox path
  return result

def execute (patience : Nat) (sandbox : Sandbox) (script : Script) : Attempt Observation := do
  let _ ← .ofExcept sandbox.sandboxId
  (script.observe patience sandbox : Program Observation)

end Script

end SandboxClient
