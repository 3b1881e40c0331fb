import SandboxClient.Proofs.Program.Contact
import SandboxClient.Timing

/-!
# Programs confined to some actions

A program is confined to a set of actions if every action it may ever perform, after whatever answers,
is in the set.  Confinement passes from the parts of a program to the whole.
-/

namespace SandboxClient

/-- What a client may do that calls the service with permitted requests only: besides, it may keep records,
pause, look at the clocks, draw and read files. -/
def Action.Within (permitted : Request → Prop) : Action → Prop
  | .request made => permitted made
  | .log _ | .sleep _ | .now | .epochMillis | .draw _ | .loadFile _ => True
  | _ => False

theorem Action.Within.mono {permitted allowed : Request → Prop} {action : Action}
    (within : action.Within permitted) (implies : ∀ request, permitted request → allowed request) :
    action.Within allowed := by
  cases action with
  | request made => exact implies made within
  | _ => exact within

/-- An action that leaves logging set up as it is. -/
def Action.KeepsLogging : Action → Prop
  | .openLogging _ | .closeLogging => False
  | _ => True

theorem Action.Within.keepsLogging {permitted : Request → Prop} {action : Action}
    (within : action.Within permitted) : action.KeepsLogging := by
  cases action with
  | openLogging config => exact within
  | closeLogging => exact within
  | _ => trivial

namespace Program

variable {Result Other : Type} {allowed : Action → Prop}

def Confined (allowed : Action → Prop) : Program Result → Prop
  | .done _ => True
  | .stalled => True
  | .act action next => allowed action ∧ ∀ answer, (next answer).Confined allowed

@[simp]
theorem confined_done (result : Result) : (Program.done result).Confined allowed :=
  trivial

theorem Confined.bind {program : Program Result} {continuation : Result → Program Other}
    (first : program.Confined allowed) (second : ∀ result, (continuation result).Confined allowed) :
    (program.bind continuation).Confined allowed := by
  induction program with
  | done result => exact second result
  | stalled => trivial
  | act action next ih => exact ⟨first.1, fun answer => ih answer (first.2 answer)⟩

theorem confined_map_iff {program : Program Result} {change : Result → Other} :
    (program.bind fun result => .done (change result)).Confined allowed ↔ program.Confined allowed := by
  induction program with
  | done result => exact Iff.rfl
  | stalled => exact Iff.rfl
  | act action next ih => exact and_congr_right fun _ => forall_congr' ih

theorem Confined.mono {other : Action → Prop} {program : Program Result}
    (confined : program.Confined allowed) (implies : ∀ action, allowed action → other action) :
    program.Confined other := by
  induction program with
  | done result => trivial
  | stalled => trivial
  | act action next ih => exact ⟨implies action confined.1, fun answer => ih answer (confined.2 answer)⟩

/-- The events of a behaviour of a confined program are allowed actions. -/
theorem Confined.allowed_of_admits {program : Program Result} {events : List Event}
    {result? : Option Result} (confined : program.Confined allowed)
    (admitted : program.Admits events result?) : ∀ event ∈ events, allowed event.action := by
  induction admitted with
  | done => simp
  | stalled => simp
  | act answer rest ih =>
      intro event member
      rcases List.mem_cons.mp member with rfl | later
      · exact confined.1
      · exact ih (confined.2 answer) event later

/-- The calls of a behaviour make permitted requests. -/
theorem Confined.permitted_of_admits {permitted : Request → Prop} {program : Program Result}
    {events : List Event} {result? : Option Result} (confined : program.Confined (Action.Within permitted))
    (admitted : program.Admits events result?) :
    ∀ contact ∈ Event.contacts events, permitted contact.request := fun _ member =>
  confined.allowed_of_admits admitted _ (Event.mem_of_mem_contacts member)

end Program

namespace Attempt

variable {Result Other : Type} {allowed : Action → Prop}

theorem confined_bind {attempt : Attempt Result} {continuation : Result → Attempt Other}
    (first : attempt.outcome.Confined allowed)
    (second : ∀ result, (continuation result).outcome.Confined allowed) :
    (attempt >>= continuation).outcome.Confined allowed := by
  rw [outcome_bind]
  refine first.bind ?_
  intro outcome
  cases outcome with
  | ok result => exact second result
  | error error => trivial

theorem confined_lift {program : Program Result} (confined : program.Confined allowed) :
    (liftM program : Attempt Result).outcome.Confined allowed := by
  rw [outcome_lift]
  exact confined.bind fun _ => trivial

end Attempt

theorem confined_timed {Result State : Type} {allowed : Action → Prop}
    {program : Program (Except Error Result × State)} (records : ∀ record, allowed (.log record))
    (clock : allowed .now) (confined : program.Confined allowed) (logger sandboxId operation : Bytes) :
    (timed logger sandboxId operation program).Confined allowed := by
  refine ⟨clock, fun _ => ⟨records _, fun _ => confined.bind ?_⟩⟩
  rintro ⟨outcome, state⟩
  refine ⟨clock, fun _ => ?_⟩
  cases outcome with
  | ok result => exact ⟨records _, fun _ => trivial⟩
  | error error => exact ⟨records _, fun _ => trivial⟩

end SandboxClient
