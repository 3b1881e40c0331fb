import SandboxClient.Sandbox.Basic

/-!
# Group programs

What a group does at the same time is a list of member programs, which it hands out together and whose
results it takes in the order of the members.  A group program says nothing about how the actions of
its members interleave; a run picks one of the ways.

The tasks can always be made.  That the system may refuse one is left out: a start would then fail with the
error of the system once the tasks of its batch are through, and a stop would be performed by the group
itself for that member.
-/

namespace SandboxClient

/-- The outcome of an operation on one member, and the member after it. -/
abbrev MemberOutcome := Except Error Unit × Sandbox

/-- A program that can also run member programs at the same time and wait for all of them. -/
inductive GroupProgram (Result : Type) where
  | done (result : Result)
  | act (action : Action) (next : action.Answer → GroupProgram Result)
  | fork (tasks : List (Program MemberOutcome)) (next : List MemberOutcome → GroupProgram Result)

namespace GroupProgram

variable {Result Other : Type}

def bind (program : GroupProgram Result) (continuation : Result → GroupProgram Other) :
    GroupProgram Other :=
  match program with
  | .done result => continuation result
  | .act action next => .act action fun answer => (next answer).bind continuation
  | .fork tasks next => .fork tasks fun outcomes => (next outcomes).bind continuation

instance : Monad GroupProgram where
  pure := .done
  bind := .bind

/-- Writes a log record. -/
def log (logger : Bytes) (level : Log.Level) (message : Bytes) : GroupProgram Unit :=
  .act (.log { logger, level, message }) .done

/-- Runs member programs at the same time. -/
def parallel (tasks : List (Program MemberOutcome)) : GroupProgram (List MemberOutcome) :=
  .fork tasks .done

end GroupProgram

/-! ## Runs -/

/-- Who performs an action: the group itself, or a task of one of the forks it makes in turn. -/
inductive Actor where
  | group
  | task (fork index : Nat)
  deriving DecidableEq, Repr

/-- Answers to actions, which may depend on who performs them. -/
structure GroupWorld (State : Type) where
  answer : Actor → (action : Action) → State → action.Answer × State

def GroupWorld.seenBy {State : Type} (world : GroupWorld State) (actor : Actor) : World State :=
  ⟨world.answer actor⟩

/-- An event with the actor who caused it. -/
abbrev GroupEvent := Actor × Event

structure GroupRun (Result State : Type) where
  result? : Option Result
  events : List GroupEvent
  state : State

namespace GroupProgram

variable {State : Type}

/-- Lets the tasks of a fork act in the order of a schedule, one action for each entry; an entry whose
task has nothing left to do is passed over.  What the tasks still have to do is answered with the
events and the state afterwards. -/
def interleave (world : GroupWorld State) (fork : Nat) :
    (schedule : List Nat) → List (Program MemberOutcome) → State →
      List (Program MemberOutcome) × List GroupEvent × State
  | [], tasks, state => (tasks, [], state)
  | index :: schedule, tasks, state =>
    match tasks[index]? with
    | some (.act action next) =>
      let (answer, after) := world.answer (.task fork index) action state
      let (left, events, last) :=
        interleave world fork schedule (tasks.set index (next answer)) after
      (left, (.task fork index, ⟨action, answer⟩) :: events, last)
    | _ => interleave world fork schedule tasks state

/-- Lets the tasks of a fork finish one after the other, the first of which has number `index`. -/
def finish (world : GroupWorld State) (fork : Nat) :
    (index : Nat) → List (Program MemberOutcome) → State → GroupRun (List MemberOutcome) State
  | _, [], state => ⟨some [], [], state⟩
  | index, task :: tasks, state =>
    let actor := Actor.task fork index
    let first := task.run (world.seenBy actor) state
    let rest := finish world fork (index + 1) tasks first.state
    { result? := do return (← first.result?) :: (← rest.result?)
      events := first.events.map (fun event => (actor, event)) ++ rest.events
      state := rest.state }

/-- Runs the tasks of a fork, first in the order of a schedule and then one after the other. -/
def runTasks (world : GroupWorld State) (fork : Nat) (schedule : List Nat)
    (tasks : List (Program MemberOutcome)) (state : State) : GroupRun (List MemberOutcome) State :=
  let (left, events, after) := interleave world fork schedule tasks state
  let finished := finish world fork 0 left after
  { finished with events := events ++ finished.events }

/-- Runs a group program whose forks are numbered from `fork` on, with a schedule for each fork. -/
def runFrom {Result : Type} (world : GroupWorld State) (schedules : Nat → List Nat) (fork : Nat) :
    GroupProgram Result → State → GroupRun Result State
  | .done result, state => ⟨some result, [], state⟩
  | .act action next, state =>
    let (answer, after) := world.answer .group action state
    let rest := runFrom world schedules fork (next answer) after
    { rest with events := (.group, ⟨action, answer⟩) :: rest.events }
  | .fork tasks next, state =>
    let forked := runTasks world fork (schedules fork) tasks state
    match forked.result? with
    | none => ⟨none, forked.events, forked.state⟩
    | some outcomes =>
      let rest := runFrom world schedules (fork + 1) (next outcomes) forked.state
      { rest with events := forked.events ++ rest.events }

end GroupProgram

end SandboxClient
