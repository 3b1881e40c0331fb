import SandboxClient.Backoff

/-!
# Trying again

Runs an operation until it succeeds or the attempts of a policy are used up.  The operation may carry
a state from one attempt to the next; the outcome is that of the last attempt.
-/

namespace SandboxClient

namespace Retry

variable {State Result : Type}

/-- The note on a failed attempt that is followed by another one. -/
def retryNote (attempt : Int) (policy : Backoff) (error : Error) (wait : Int) : Bytes :=
  utf8 "Attempt " ++ Text.integer attempt ++ utf8 "/" ++ Text.integer policy.maxAttempts ++
    utf8 " failed: " ++ error.message ++ utf8 ", retrying in " ++ Text.integer wait ++ utf8 "ms"

/-- The note on the last failed attempt. -/
def finalNote (policy : Backoff) (error : Error) : Bytes :=
  utf8 "All " ++ Text.integer policy.maxAttempts ++ utf8 " attempts failed, last error: " ++
    error.message

/-- Writes a note if there is a logger to write it to. -/
def note (logger? : Option Bytes) (level : Log.Level) (message : Bytes) : Program Unit :=
  match logger? with
  | some logger => .log logger level message
  | none => .done ()

/-- Makes one attempt and up to `retries` more, waiting after each failed one but the last. -/
def attempts (policy : Backoff) (logger? : Option Bytes)
    (operation : State → Program (Except Error Result × State)) :
    (retries : Nat) → (delay : Float) → State → Program (Except Error Result × State)
  | 0, _, state => do
    let (outcome, after) ← operation state
    match outcome with
    | .ok result => return (.ok result, after)
    | .error error =>
      note logger? .error (finalNote policy error)
      return (.error error, after)
  | retries + 1, delay, state => do
    let (outcome, after) ← operation state
    match outcome with
    | .ok result => return (.ok result, after)
    | .error error =>
      let wait ← Backoff.wait delay policy.jitter
      note logger? .warning
        (retryNote (policy.maxAttempts - (retries + 1 : Nat)) policy error wait)
      .sleep wait
      attempts policy logger? operation retries (delay * policy.multiplier) after

end Retry

/-- Tries an operation under a policy.  A policy that is not valid is refused before any attempt. -/
def retry {State Result : Type} (policy : Backoff) (logger? : Option Bytes)
    (operation : State → Program (Except Error Result × State)) (state : State) :
    Program (Except Error Result × State) :=
  match policy.validate with
  | .error error => .done (.error error, state)
  | .ok () =>
    Retry.attempts policy logger? operation (policy.maxAttempts - 1).toNat policy.firstDelay state

/-- Tries an attempt that keeps no state. -/
def retryAttempt {Result : Type} (policy : Backoff) (logger? : Option Bytes)
    (attempt : Attempt Result) : Attempt Result :=
  .ofProgram do
    let (outcome, _) ← retry policy logger?
      (fun (_ : Unit) => do return (← attempt.outcome, ())) ()
    return outcome

end SandboxClient
