import SandboxClient.Group.Basic
import SandboxClient.Proofs.Group.Behaviour
import SandboxClient.Proofs.Retry.Attempts
import SandboxClient.Proofs.Sandbox.Lifecycle

/-!
# Group programs confined to some actions

What the group and the tasks of its forks may ever do.  Starting and stopping a group is confined to what
its members do, and to keeping records of it.
-/

namespace SandboxClient

namespace GroupProgram

variable {Result Other : Type} {allowed : Action → Prop}

def Confined (allowed : Action → Prop) : GroupProgram Result → Prop
  | .done _ => True
  | .act action next => allowed action ∧ ∀ answer, (next answer).Confined allowed
  | .fork tasks next =>
    (∀ task ∈ tasks, task.Confined allowed) ∧ ∀ outcomes, (next outcomes).Confined allowed

theorem Confined.bind {program : GroupProgram Result} {continuation : Result → GroupProgram Other}
    (first : program.Confined allowed) (second : ∀ result, (continuation result).Confined allowed) :
    (program.bind continuation).Confined allowed := by
  induction program with
  | done result => exact second result
  | act action next ih => exact ⟨first.1, fun answer => ih answer (first.2 answer)⟩
  | fork tasks next ih => exact ⟨first.1, fun outcomes => ih outcomes (first.2 outcomes)⟩

theorem Confined.mono {other : Action → Prop} {program : GroupProgram Result}
    (confined : program.Confined allowed) (implies : ∀ action, allowed action → other action) :
    program.Confined other := by
  induction program with
  | done result => trivial
  | act action next ih => exact ⟨implies action confined.1, fun answer => ih answer (confined.2 answer)⟩
  | fork tasks next ih =>
      exact ⟨fun task member => (confined.1 task member).mono implies,
        fun outcomes => ih outcomes (confined.2 outcomes)⟩

/-- What the tasks of a fork do is what one of them may do. -/
theorem Forked.allowed_of_confined {fork : Nat} {tasks : List (Program MemberOutcome)} {events : List GroupEvent}
    {ends : List (Option MemberOutcome)} (forked : Forked (.task fork) tasks events ends)
    (confined : ∀ task ∈ tasks, task.Confined allowed) :
    ∀ entry ∈ events, allowed entry.2.action := by
  rintro ⟨actor, event⟩ member
  obtain ⟨index, inside, rfl⟩ := forked.actors _ member
  have behaved := forked.behaves index tasks[index]
    (ends.get ⟨index, forked.length_eq.symm ▸ inside⟩) (by simp) (by simp)
  exact (confined _ (List.getElem_mem inside)).allowed_of_admits behaved event
    (mem_eventsOf_of_mem member)

/-- The events of a behaviour of a confined group program are allowed actions, whoever performs them. -/
theorem Confined.allowed_of_admits {program : GroupProgram Result} {fork : Nat}
    {events : List GroupEvent} {result? : Option Result} (confined : program.Confined allowed)
    (admitted : program.Admits fork events result?) : ∀ entry ∈ events, allowed entry.2.action := by
  induction admitted with
  | done => simp
  | act answer rest ih =>
      intro entry member
      rcases List.mem_cons.mp member with rfl | later
      · exact confined.1
      · exact ih (confined.2 answer) entry later
  | joined forked rest ih =>
      intro entry member
      rcases List.mem_append.mp member with earlier | later
      · exact forked.allowed_of_confined confined.1 entry earlier
      · exact ih (confined.2 _) entry later
  | stuck forked missing => exact forked.allowed_of_confined confined.1

end GroupProgram

namespace Group

variable {permitted : Request → Prop} {patience : Nat}

theorem confined_firstFailure (logger : Bytes) (index : Nat) (outcomes : List MemberOutcome) :
    (firstFailure logger index outcomes).Confined (Action.Within permitted) := by
  induction outcomes generalizing index with
  | nil => trivial
  | cons outcome outcomes ih =>
      obtain ⟨result, handle⟩ := outcome
      cases result with
      | ok result => exact ih (index + 1)
      | error error => exact ⟨trivial, fun _ => (ih (index + 1)).bind fun _ => trivial⟩

theorem confined_startMember
    (starts : ∀ member, (Sandbox.start patience member).Confined (Action.Within permitted))
    (group : Group) (member : Sandbox) :
    (startMember patience group member).Confined (Action.Within permitted) :=
  confined_retry starts _ _ member

theorem confined_startBatches
    (starts : ∀ member, (Sandbox.start patience member).Confined (Action.Within permitted))
    (group : Group) (started : Nat) (batches : List (List Sandbox)) :
    (startBatches patience group started batches).Confined (Action.Within permitted) := by
  induction batches generalizing started with
  | nil => trivial
  | cons batch rest ih =>
      refine ⟨?_, fun outcomes => (confined_firstFailure _ _ _).bind fun failure? => ?_⟩
      · intro task member
        obtain ⟨handle, _, rfl⟩ := List.mem_map.mp member
        exact confined_startMember starts group handle
      · cases failure? with
        | some error => trivial
        | none => exact ⟨trivial, fun _ => (ih _).bind fun _ => trivial⟩

theorem confined_start
    (starts : ∀ member, (Sandbox.start patience member).Confined (Action.Within permitted))
    (group : Group) : (group.start patience).Confined (Action.Within permitted) :=
  ⟨trivial, fun _ => (confined_startBatches starts group 0 _).bind fun _ => trivial⟩

theorem confined_stop {group : Group}
    (stops : ∀ member ∈ group.members, permitted (Sandbox.stopRequest member)) :
    group.stop.Confined (Action.Within permitted) := by
  refine ⟨trivial, fun _ => ⟨?_, fun _ => trivial⟩⟩
  intro task member
  obtain ⟨handle, among, rfl⟩ := List.mem_map.mp member
  refine Program.Confined.bind ?_ fun _ => trivial
  exact handle.confined_stop.mono fun _ within => within.mono fun _ same => same ▸ stops handle among

end Group

end SandboxClient
