import SandboxClient.Error
import SandboxClient.FileTree.Basic
import SandboxClient.Http.Request
import SandboxClient.Log.Level

/-!
# Programs

An operation of the client is a program: a tree of actions on the outside world, each followed by
what is done with its answer.  Nothing happens while a program is built.  It is run against a world
that answers the actions, and the run is the list of actions with their answers and the result.

Programs that poll have a patience, the number of rounds they are willing to make; one that runs out
of it stalls and has no result.
-/

namespace SandboxClient

/-- What the HTTP layer has to obtain before a transfer. -/
inductive TransferResource where
  | handle
  | form
  deriving DecidableEq, Repr

/-- The two output streams of a command line. -/
inductive Stream where
  | output
  | error
  deriving DecidableEq, Repr

/-- How loggers are set up. -/
structure LoggingConfig where
  level : Bytes := utf8 "INFO"
  /-- The directory of the log file; none is written if this is empty. -/
  directory : Bytes := []
  fileName : Bytes := utf8 "rocklet.log"
  layout : Bytes := utf8 "[%Y-%m-%d %H:%M:%S.%e] [%n] [%^%l%$] %v"
  deriving DecidableEq, Repr

/-- One interaction with the world. -/
inductive Action where
  /-- Calls the service. -/
  | request (request : Request)
  /-- Obtains a resource of the transfer library. -/
  | acquire (resource : TransferResource)
  /-- Performs an HTTP exchange. -/
  | transfer (transfer : Transfer)
  /-- Waits for a number of milliseconds. -/
  | sleep (millis : Int)
  /-- Reads the clock that deadlines are measured on, in nanoseconds. -/
  | now
  /-- Reads the wall clock, in milliseconds since the epoch. -/
  | epochMillis
  /-- Draws a whole number of milliseconds uniformly between zero and a bound. -/
  | draw (bound : Float)
  /-- Reads a local file. -/
  | loadFile (path : Bytes)
  /-- Writes a log record. -/
  | log (record : Log.Record)
  /-- Writes to an output stream. -/
  | print (stream : Stream) (text : Bytes)
  /-- Sets up logging anew. -/
  | openLogging (config : LoggingConfig)
  /-- Ends logging. -/
  | closeLogging

abbrev Action.Answer : Action → Type
  | .request _ => Except Error Json
  | .acquire _ => Bool
  | .transfer _ => TransferOutcome
  | .now => Int
  | .epochMillis => Int
  | .draw _ => Int
  | .loadFile _ => LocalFile
  | _ => Unit

/-- A program with results in `Result`. -/
inductive Program (Result : Type) where
  | done (result : Result)
  /-- The patience of a polling loop is used up. -/
  | stalled
  | act (action : Action) (next : action.Answer → Program Result)

namespace Program

variable {Result Other : Type}

def bind (program : Program Result) (continuation : Result → Program Other) : Program Other :=
  match program with
  | .done result => continuation result
  | .stalled => .stalled
  | .act action next => .act action fun answer => (next answer).bind continuation

instance : Monad Program where
  pure := .done
  bind := .bind

@[simp]
theorem pure_bind (result : Result) (continuation : Result → Program Other) :
    bind (.done result) continuation = continuation result :=
  rfl

@[simp]
theorem bind_done (program : Program Result) : bind program .done = program := by
  induction program with
  | done result => rfl
  | stalled => rfl
  | act action next ih => simp [bind, ih]

theorem bind_assoc {Last : Type} (program : Program Result) (first : Result → Program Other)
    (second : Other → Program Last) :
    bind (bind program first) second = bind program fun result => bind (first result) second := by
  induction program with
  | done result => rfl
  | stalled => rfl
  | act action next ih => simp [bind, ih]

def perform (action : Action) : Program action.Answer :=
  .act action .done

/-- Writes a log record. -/
def log (logger : Bytes) (level : Log.Level) (message : Bytes) : Program Unit :=
  .act (.log { logger, level, message }) .done

def sleep (millis : Int) : Program Unit :=
  .act (.sleep millis) .done

/-- Calls the service. -/
def request (request : Request) : Program (Except Error Json) :=
  .act (.request request) .done

end Program

/-- A program that may fail. -/
abbrev Attempt := ExceptT Error Program

namespace Attempt

variable {Result : Type}

/-- The outcome of an attempt, which as a program cannot fail. -/
def outcome (attempt : Attempt Result) : Program (Except Error Result) :=
  attempt.run

/-- The attempt that answers the outcome of another one and cannot fail. -/
def settled (attempt : Attempt Result) : Attempt (Except Error Result) :=
  ExceptT.mk (attempt.run.bind fun outcome => .done (.ok outcome))

def ofExcept (outcome : Except Error Result) : Attempt Result :=
  ExceptT.mk (.done outcome)

/-- The attempt of a program that tells its outcome. -/
def ofProgram (program : Program (Except Error Result)) : Attempt Result :=
  ExceptT.mk program

end Attempt

/-! ## Runs -/

/-- Answers to actions, which may depend on everything that happened before through the state. -/
structure World (State : Type) where
  answer : (action : Action) → State → action.Answer × State

/-- An action with its answer. -/
structure Event where
  action : Action
  answer : action.Answer

/-- A finished or stalled run: the result if there is one, the events in order and the state of the
world afterwards. -/
structure Run (Result State : Type) where
  result? : Option Result
  events : List Event
  state : State

def Program.run {Result State : Type} (world : World State) :
    Program Result → State → Run Result State
  | .done result, state => ⟨some result, [], state⟩
  | .stalled, state => ⟨none, [], state⟩
  | .act action next, state =>
    let (answer, after) := world.answer action state
    let rest := (next answer).run world after
    { rest with events := ⟨action, answer⟩ :: rest.events }

end SandboxClient
