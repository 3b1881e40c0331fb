import SandboxClient.Sandbox.Execution

/-!
# User accounts

Looks for user accounts in a sandbox and creates them.
-/

namespace SandboxClient

namespace Account

def logger : Bytes := utf8 "rock.sandbox.user"

/-- The bound of a command on accounts, in seconds. -/
def timeout : Int := 30

/-- The account that commands run under. -/
def current : Bytes := utf8 "root"

def isPresent (sandbox : Sandbox) (name : Bytes) : Attempt Bool := do
  let response ← sandbox.execute (Command.ofArguments [utf8 "id", name] timeout)
  if response.succeeded then
    Program.log logger .info (utf8 "user " ++ name ++ utf8 " already exists")
  return response.succeeded

/-- Creates an account unless there is one of that name; whether there is one afterwards. -/
def create (sandbox : Sandbox) (name : Bytes) : Attempt Bool := do
  if ← isPresent sandbox name then return true
  else
    let response ← sandbox.execute (Command.ofArguments
      [utf8 "useradd", utf8 "-m", utf8 "-s", utf8 "/bin/bash", name] timeout)
    let document ← .ofExcept response.toJson.document
    Program.log logger .info (utf8 "useradd " ++ name ++ utf8 " response: " ++ document)
    return response.succeeded

end Account

end SandboxClient
