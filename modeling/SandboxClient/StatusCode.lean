import SandboxClient.Text

/-!
# Status codes of the service

The service reports an outcome by a four-digit code whose first digit names the kind of outcome.
-/

namespace SandboxClient

namespace StatusCode

/-- The request succeeded. -/
def ok : Int := 2000

/-- The caller is at fault. -/
def badRequest : Int := 4000

/-- The service is at fault. -/
def internalServerError : Int := 5000

/-- A command is at fault. -/
def commandError : Int := 6000

/-- The phrase for a code that names its whole kind; other codes have none. -/
def reasonPhrase (code : Int) : Bytes :=
  if code = ok then utf8 "OK"
  else if code = badRequest then utf8 "Bad Request"
  else if code = internalServerError then utf8 "Internal Server Error"
  else if code = commandError then utf8 "Command Error"
  else []

def isSuccess (code : Int) : Bool := 2000 ≤ code && code ≤ 2999

def isClientError (code : Int) : Bool := 4000 ≤ code && code ≤ 4999

def isServerError (code : Int) : Bool := 5000 ≤ code && code ≤ 5999

def isCommandError (code : Int) : Bool := 6000 ≤ code && code ≤ 6999

def isError (code : Int) : Bool := 4000 ≤ code && code ≤ 6999

end StatusCode

end SandboxClient
