import SandboxClient.Text

/-!
# Terminal texts

The texts of the command line on a terminal: styles, the usage and the marks in front of messages.
-/

namespace SandboxClient

namespace CommandLine

/-- How a piece of text looks on a terminal. -/
inductive Style where
  | bold
  | dim
  | cyan
  | green
  | red
  | yellow
  deriving DecidableEq, Repr

/-- The sequence that switches a style on. -/
def Style.on : Style → Bytes
  | .bold => utf8 "\x1b[1m"
  | .dim => utf8 "\x1b[2m"
  | .cyan => utf8 "\x1b[36m"
  | .green => utf8 "\x1b[32m"
  | .red => utf8 "\x1b[31m"
  | .yellow => utf8 "\x1b[33m"

/-- The sequence that switches all styles off. -/
def plain : Bytes := utf8 "\x1b[0m"

def Style.apply (style : Style) (text : Bytes) : Bytes :=
  style.on ++ text ++ plain

def programName : Bytes := utf8 "rockctl"

/-- How the program is called. -/
def usage : Bytes :=
  Style.bold.apply (utf8 "Usage: ") ++ programName ++ utf8 " [options] -- <command...>\n\n" ++
  utf8 "Start a sandbox, run one command in it and stop it again.\n\n" ++
  Style.bold.apply (utf8 "Options:\n") ++
  utf8 "  --base-url URL          Admin service (default: $ROCK_BASE_URL)\n" ++
  utf8 "  --image IMAGE           Sandbox image (default: python:3.11)\n" ++
  utf8 "  --memory SIZE           Memory limit (default: 8g)\n" ++
  utf8 "  --cpus N                CPU limit (default: 2)\n" ++
  utf8 "  --cluster NAME          Target cluster (default: zb)\n" ++
  utf8 "  --startup-timeout SECS  Wait for the sandbox to be alive\n" ++
  utf8 "  --session NAME          Run inside this session\n" ++
  utf8 "  --timeout SECS          Per-command timeout (normal mode)\n" ++
  utf8 "  --nohup                 Run detached and wait for completion\n" ++
  utf8 "  --wait-timeout SECS     Detached completion budget (default: 300)\n" ++
  utf8 "  --wait-interval SECS    Detached poll interval (min 5, default: 10)\n" ++
  utf8 "  --limit-bytes N         Read at most N bytes of detached output\n" ++
  utf8 "  --ignore-output         Do not read detached output\n" ++
  utf8 "  --retry                 Retry the command while it exits nonzero\n" ++
  utf8 "  --log-level LEVEL       DEBUG, INFO, WARN, ERROR\n" ++
  utf8 "  -h, --help              Show this help\n"

/-- A complaint about the arguments. -/
def complaint (message : Bytes) : Bytes :=
  Style.red.apply (utf8 "error: ") ++ message ++ utf8 "\n"

def startingNote (image : Bytes) : Bytes :=
  Style.cyan.apply (utf8 "⟳") ++ utf8 "  Starting sandbox (" ++ image ++ utf8 ")...\n"

def startedNote (id hostName : Bytes) : Bytes :=
  Style.green.apply (utf8 "✓") ++ utf8 "  " ++ id ++
    Style.dim.apply (utf8 " on " ++ hostName) ++ utf8 "\n"

def reasonNote (reason : Bytes) : Bytes :=
  Style.yellow.apply (utf8 "!") ++ utf8 "  " ++ reason ++ utf8 "\n"

/-- The note on what kept a command from being run. -/
def failureNote (message : Bytes) : Bytes :=
  Style.bold.on ++ Style.red.apply (utf8 "✗") ++ utf8 "  " ++ message ++ utf8 "\n"

/-- The output of a command, ended by a line feed unless it is empty. -/
def closedOutput (output : Bytes) : Bytes :=
  if output.isEmpty || output.getLast? = some 10 then output else output ++ utf8 "\n"

end CommandLine

end SandboxClient
