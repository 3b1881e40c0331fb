import SandboxClient.Json.Basic

/-!
# Commands and run options

A single command is a shell text or a list of arguments.  A command that is run through a session has
options that say how it is run and how long it is waited for.
-/

namespace SandboxClient

/-- A single command.  Arguments take precedence over the shell text unless there are none. -/
structure Command where
  shell : Bytes := []
  arguments : List Bytes := []
  /-- The bound in seconds. -/
  timeout : Int := 1200
  environment : Dictionary Bytes := []
  directory : Bytes := []
  deriving DecidableEq

namespace Command

def ofArguments (arguments : List Bytes) (timeout : Int) : Command :=
  { arguments, timeout }

/-- A command as it is shown in messages. -/
def display (command : Command) : Bytes :=
  if command.arguments.isEmpty then command.shell
  else Text.joinWith (utf8 " ") command.arguments

end Command

/-- How a command is run: inside a session, or detached from it. -/
inductive RunMode where
  | normal
  | detached
  deriving DecidableEq, Repr

namespace RunMode

def name : RunMode → Bytes
  | .normal => utf8 "normal"
  | .detached => utf8 "nohup"

/-- The mode a text names; an unknown name stands for the normal mode. -/
def ofText (text : Bytes) : RunMode :=
  if text = utf8 "nohup" || text = utf8 "detached" then .detached else .normal

end RunMode

/-- Options of a run.  Times are in seconds. -/
structure RunOptions where
  /-- The session; the default session, or one made for the run, if none is given. -/
  session? : Option Bytes := none
  mode : RunMode := .normal
  /-- The bound of a command in normal mode. -/
  timeout : Int := 300
  /-- How long a detached command is waited for. -/
  waitTimeout : Int := 300
  /-- How often a detached command is looked at. -/
  waitInterval : Int := 10
  /-- How much of the output of a detached command is read. -/
  byteLimit? : Option Nat := none
  /-- Whether the output of a detached command is left unread. -/
  ignoreOutput : Bool := false
  /-- The file for the output of a detached command; one named after the time if none is given. -/
  outputFile? : Option Bytes := none
  deriving DecidableEq

end SandboxClient
