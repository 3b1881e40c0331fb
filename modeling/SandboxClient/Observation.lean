import SandboxClient.Json.Printer
import SandboxClient.Error

/-!
# Results of commands

What the service reports about a command, in two shapes: an observation for commands in a session and
for detached commands, and a response for single commands.  Missing and null members read as empty,
and a member of another type than text reads as its JSON document.
-/

namespace SandboxClient

/-- The document of a JSON value as a text, or the error of one that has none. -/
def Json.document (value : Json) : Except Error Bytes :=
  match value.render with
  | .ok text => .ok text
  | .error fault => .error (.unencodable fault)

/-- A member read as a text. -/
def Json.textField (value : Json) (key : Bytes) : Except Error Bytes :=
  match value.member? key with
  | none => .ok []
  | some .null => .ok []
  | some (.string text) => .ok text
  | some other => other.document

/-- A member read as a 32-bit integer, if it is a number. -/
def Json.int32Field? (value : Json) (key : Bytes) : Option Int32 :=
  (value.member? key).bind Json.toInt32?

/-- The result of a command in a session or of a detached command. -/
structure Observation where
  output : Bytes := []
  exitCode? : Option Int32 := none
  failureReason : Bytes := []
  expectString : Bytes := []
  deriving DecidableEq

namespace Observation

/-- A command succeeded if it reported the exit code zero. -/
def succeeded (observation : Observation) : Bool :=
  observation.exitCode? = some 0

def toJson (observation : Observation) : Json :=
  .object [
    (utf8 "exit_code", .ofExitCode observation.exitCode?),
    (utf8 "expect_string", .string observation.expectString),
    (utf8 "failure_reason", .string observation.failureReason),
    (utf8 "output", .string observation.output)]

/-- Reads an observation; what is not an object reads as an empty one. -/
def ofJson (value : Json) : Except Error Observation := do
  if value.isObject then
    return {
      output := ← value.textField (utf8 "output")
      exitCode? := value.int32Field? (utf8 "exit_code")
      failureReason := ← value.textField (utf8 "failure_reason")
      expectString := ← value.textField (utf8 "expect_string") }
  else return {}

end Observation

/-- The result of a single command. -/
structure CommandResponse where
  standardOutput : Bytes := []
  standardError : Bytes := []
  exitCode? : Option Int32 := none
  deriving DecidableEq

namespace CommandResponse

/-- A command succeeded if it reported the exit code zero. -/
def succeeded (response : CommandResponse) : Bool :=
  response.exitCode? = some 0

def toJson (response : CommandResponse) : Json :=
  .object [
    (utf8 "exit_code", .ofExitCode response.exitCode?),
    (utf8 "stderr", .string response.standardError),
    (utf8 "stdout", .string response.standardOutput)]

/-- Reads a response; what is not an object reads as an empty one. -/
def ofJson (value : Json) : Except Error CommandResponse := do
  if value.isObject then
    return {
      standardOutput := ← value.textField (utf8 "stdout")
      standardError := ← value.textField (utf8 "stderr")
      exitCode? := value.int32Field? (utf8 "exit_code") }
  else return {}

end CommandResponse

end SandboxClient
