import SandboxClient.CommandLine.Options
import SandboxClient.Dotenv
import SandboxClient.Http.Exchange
import SandboxClient.Sandbox.Lifecycle
import SandboxClient.Sandbox.Run
import SandboxClient.Settings
import SandboxClient.Timing

/-!
# One run of the program

Starts a sandbox, runs one command in it and stops it again.  A sandbox that was started is stopped
whatever becomes of the command, and the exit code of the program is that of the command.
-/

namespace SandboxClient

namespace CommandLine

def logger : Bytes := utf8 "rockctl"

/-- Writes to an output stream. -/
def print (stream : Stream) (text : Bytes) : Program Unit :=
  .act (.print stream text) .done

/-- Says what keeps the program from running a command. -/
def Verdict.announce : Verdict → Program Unit
  | .run => .done ()
  | .help => print .output usage
  | .noCommand => do
    print .error (complaint (utf8 "no command given\n"))
    print .output usage

def Verdict.exitCode? : Verdict → Option Int
  | .run => none
  | .help => some 0
  | .noCommand => some 2

/-- The exit code after bad arguments. -/
def badArguments : Int := 2

/-- The exit code after a failure, and of a command that has none. -/
def failed : Int := 1

/-- Runs the command, as often as is asked for. -/
def runCommand (patience : Nat) (sandbox : Sandbox) (options : Options) : Attempt Observation :=
  if options.retry then sandbox.runWithRetry patience options.command options.run
  else sandbox.run patience options.command options.run

/-- Shows the result of a command and answers its exit code. -/
def present (observation : Observation) : Program Int := do
  print .output (closedOutput observation.output)
  if !observation.failureReason.isEmpty then
    print .error (reasonNote observation.failureReason)
  match observation.exitCode? with
  | some code => return code.toInt
  | none => return failed

/-- Reports an error.  One that does not come from the client is logged as well. -/
def report (error : Error) : Program Int := do
  if !error.isOwn then
    .log logger .error (utf8 "Unexpected failure: " ++ error.message)
  print .error (failureNote error.message)
  return failed

/-- Runs the command in a sandbox that was started. -/
def attend (patience : Nat) (sandbox : Sandbox) (options : Options) : Program Int := do
  print .error (startedNote sandbox.id sandbox.hostName)
  match ← (runCommand patience sandbox options).outcome with
  | .ok observation => present observation
  | .error error => report error

/-- Starts a sandbox, runs the command and stops the sandbox. -/
def serve (patience : Nat) (options : Options) (sandbox : Sandbox) : Program Int := do
  print .error (startingNote options.sandbox.image)
  let (started, sandbox) ←
    timed logger (utf8 "-") (utf8 "start sandbox") (Sandbox.start patience sandbox)
  let code ←
    match started with
    | .ok () => attend patience sandbox options
    | .error error => report error
  let _ ← sandbox.stop
  return code

/-- How loggers are set up: a level among the arguments takes precedence over the environment. -/
def loggingOf (environment : Environment) (options : Options) : LoggingConfig :=
  let config := Settings.logging environment
  if options.logLevel.isEmpty then config else { config with level := options.logLevel }

/-- Runs the command that the arguments ask for, with logging set up around it. -/
def session (patience : Nat) (environment : Environment) (options : Options) (freshKey : Bytes) :
    Program Int := do
  (.act (.openLogging (loggingOf environment options)) .done : Program Unit)
  let code ← serve patience options (Sandbox.create options.sandbox freshKey)
  (.act .closeLogging .done : Program Unit)
  return code

/-- The program, with the exit code as its result. -/
def program (patience : Nat) (surroundings : Surroundings) (arguments : List Bytes)
    (freshKey : Bytes) : Program Int := do
  let environment := (← Dotenv.load surroundings).environment
  let config ← Settings.sandbox environment
  let (options, verdict) := Options.read arguments { sandbox := config }
  match verdict with
  | .error error =>
    print .error (complaint error.message)
    return badArguments
  | .ok verdict =>
    match verdict.exitCode? with
    | some code =>
      verdict.announce
      return code
    | none => session patience environment options freshKey

/-- The program with its calls carried over HTTP. -/
def programOverHttp (patience : Nat) (surroundings : Surroundings) (arguments : List Bytes)
    (freshKey : Bytes) : Program Int :=
  (program patience surroundings arguments freshKey).overHttp

end CommandLine

end SandboxClient
