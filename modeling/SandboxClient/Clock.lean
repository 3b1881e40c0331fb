import SandboxClient.Program
import SandboxClient.Decimal.Binary64

/-!
# Clocks

Deadlines are measured on a clock that counts nanoseconds; durations are whole milliseconds.  The
steady clock is the one that is used when none is supplied: it waits only for positive durations.
-/

namespace SandboxClient

namespace Clock

/-- The whole milliseconds between two readings in nanoseconds. -/
def millisBetween (start now : Int) : Int :=
  (now - start).tdiv 1000000

/-- A number of seconds as whole milliseconds. -/
def secondsToMillis (seconds : Float) : Int :=
  truncateToInt64 (seconds * 1000)

def millisToSeconds (millis : Int) : Float :=
  Float.ofInt millis / 1000

def now : Program Int :=
  .act .now .done

/-- Reads the wall clock. -/
def epochMillis : Program Int :=
  .act .epochMillis .done

/-- The whole milliseconds since a reading. -/
def elapsedSince (start : Int) : Program Int :=
  .act .now fun reading => .done (millisBetween start reading)

end Clock

/-- A clock that advances with the time that passes, in nanoseconds since it was started. -/
structure SteadyClock where
  /-- The wall clock at the start, in nanoseconds since the epoch. -/
  startEpoch : Int := 1700000000000000000
  passed : Int := 0
  deriving DecidableEq, Repr

namespace SteadyClock

/-- Whether the clock waits at all when asked to sleep. -/
def waits (millis : Int) : Bool :=
  0 < millis

/-- The clock after a sleep; a duration that is not positive passes no time. -/
def sleep (clock : SteadyClock) (millis : Int) : SteadyClock :=
  if waits millis then { clock with passed := clock.passed + millis * 1000000 } else clock

/-- The wall clock in whole milliseconds since the epoch. -/
def epochMillis (clock : SteadyClock) : Int :=
  (clock.startEpoch + clock.passed).tdiv 1000000

end SteadyClock

end SandboxClient
