import SandboxClient.Clock
import SandboxClient.Decimal.Layout

/-!
# Backoff policies

How often an operation is tried and how long to wait in between.  The delay before the first retry is
the initial delay, and each further one is the one before times a factor, in double arithmetic; a wait
is the delay rounded to milliseconds.  With jitter the wait is drawn between zero and twice the delay.
-/

namespace SandboxClient

/-- A policy for trying again. -/
structure Backoff where
  maxAttempts : Int := 3
  /-- The delay before the first retry, in milliseconds. -/
  initialDelay : Int := 1000
  multiplier : Float := 1
  jitter : Bool := false

namespace Backoff

/-- Accepts at least one attempt, delays that are not negative and factors that are positive. -/
def validate (policy : Backoff) : Except Error Unit :=
  if policy.maxAttempts < 1 then
    .error (.invalidParameter
      (utf8 "max_attempts must be >= 1, got " ++ Text.integer policy.maxAttempts))
  else if policy.initialDelay < 0 then
    .error (.invalidParameter
      (utf8 "initial_delay must be >= 0, got " ++ Text.integer policy.initialDelay ++ utf8 "ms"))
  else if ¬ 0 < policy.multiplier then
    .error (.invalidParameter
      (utf8 "backoff_multiplier must be > 0, got " ++
        Decimal.Layout.message.render (.ofFloat policy.multiplier)))
  else .ok ()

def firstDelay (policy : Backoff) : Float :=
  Float.ofInt policy.initialDelay

/-- The waits for `count` retries without jitter, from a current delay on. -/
def waits (multiplier : Float) : (count : Nat) → (delay : Float) → List Int
  | 0, _ => []
  | count + 1, delay => roundToInt64 delay :: waits multiplier count (delay * multiplier)

/-- The waits between the attempts without jitter: one fewer than there are attempts. -/
def schedule (policy : Backoff) : Except Error (List Int) := do
  policy.validate
  return waits policy.multiplier (policy.maxAttempts - 1).toNat policy.firstDelay

def isDrawn (delay : Float) (jitter : Bool) : Bool :=
  jitter && !(delay ≤ 0)

def wait (delay : Float) (jitter : Bool) : Program Int :=
  if isDrawn delay jitter then .act (.draw (2 * delay)) .done
  else .done (roundToInt64 delay)

end Backoff

end SandboxClient
