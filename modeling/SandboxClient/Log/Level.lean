import SandboxClient.Text

/-!
# Log levels and records

A record has the name of the logger it was written to, a level and a message.  A level lets the
records through that are at least as severe; the level `off` lets none through.
-/

namespace SandboxClient

namespace Log

/-- The severity of a record, or the threshold of a logger. -/
inductive Level where
  | trace
  | debug
  | info
  | warning
  | error
  | critical
  | off
  deriving DecidableEq, Repr

namespace Level

/-- The place of a level in the order of severity. -/
def rank : Level → Nat
  | .trace => 0
  | .debug => 1
  | .info => 2
  | .warning => 3
  | .error => 4
  | .critical => 5
  | .off => 6

def name : Level → Bytes
  | .trace => utf8 "trace"
  | .debug => utf8 "debug"
  | .info => utf8 "info"
  | .warning => utf8 "warning"
  | .error => utf8 "error"
  | .critical => utf8 "critical"
  | .off => utf8 "off"

/-- The level a text names in any case of its ASCII letters; an unknown name stands for `info`. -/
def ofText (text : Bytes) : Level :=
  let lower := text.map Text.toLower
  if lower = utf8 "trace" then .trace
  else if lower = utf8 "debug" then .debug
  else if lower = utf8 "info" then .info
  else if lower = utf8 "warn" || lower = utf8 "warning" then .warning
  else if lower = utf8 "error" then .error
  else if lower = utf8 "critical" || lower = utf8 "fatal" then .critical
  else if lower = utf8 "off" then .off
  else .info

/-- Whether a threshold lets a record of the given level through. -/
def enables (threshold level : Level) : Bool :=
  threshold != .off && threshold.rank ≤ level.rank

end Level

/-- One message to a named logger. -/
structure Record where
  logger : Bytes
  level : Level
  message : Bytes
  deriving DecidableEq, Repr

end Log

end SandboxClient
