import SandboxClient.Proofs.Config
import SandboxClient.Proofs.Lifetime.Client

/-!
# What a sandbox is started with

Nothing but starting a handle posts to where sandboxes are started, and a start makes its calls only with a
configuration that is accepted.  So whatever a caller does with the library, every sandbox it asks for is
asked for with such a configuration.
-/

namespace SandboxClient

/-- If a request posts a body to where sandboxes are started, the body is that of a handle whose
configuration is accepted, and tells its number of processors. -/
def Request.StartsAccepted (request : Request) : Prop :=
  ∀ body, request.payload = .post body → utf8 "/start_async" <:+ request.url →
    ∃ handle : Sandbox, handle.config.Accepted ∧ body = handle.startBody ∧
      body.member? (utf8 "cpus") = some (.double handle.config.cpus)

namespace Sandbox

variable {sandbox : Sandbox} {request : Request}

/-- What is posted elsewhere starts no sandbox.  The last letters of the endpoints are different. -/
theorem startsAccepted_of_elsewhere {endpoint : Bytes} {letter : UInt8}
    (url_eq : request.url = sandbox.endpointUrl endpoint) (last_eq : endpoint.getLast? = some letter)
    (different : letter ≠ 99) : request.StartsAccepted := by
  rintro body - ⟨before, whole⟩
  have last := congrArg List.getLast? whole
  rw [url_eq, endpointUrl, List.getLast?_append, List.getLast?_append, last_eq] at last
  exact absurd (Option.some.inj last).symm different

theorem Runs.startsAccepted {errand : Errand} (runs : sandbox.Runs errand request) :
    request.StartsAccepted := by
  cases errand <;> exact startsAccepted_of_elsewhere runs.url_eq rfl (by decide)

theorem startsAccepted_stopRequest (sandbox : Sandbox) : sandbox.stopRequest.StartsAccepted :=
  startsAccepted_of_elsewhere rfl rfl (show (112 : UInt8) ≠ 99 by decide)

theorem startsAccepted_statusRequest (sandbox : Sandbox) (id : Bytes) (timeout : Int) :
    (sandbox.statusRequest id timeout).StartsAccepted := by
  rintro body ⟨⟩

theorem Launches.startsAccepted (launches : sandbox.Launches request)
    (valid : sandbox.config.validate = .ok ()) : request.StartsAccepted := by
  rcases launches with rfl | ⟨id, timeout, _, rfl⟩
  · rintro body ⟨⟩ _
    exact ⟨sandbox, sandbox.config.checks_validate.eq_ok_iff.mp valid, rfl, rfl⟩
  · exact startsAccepted_statusRequest sandbox id timeout

theorem confined_start_accepted (sandbox : Sandbox) (patience : Nat) :
    (sandbox.start patience).Confined (Action.Within Request.StartsAccepted) :=
  sandbox.confined_start (fun valid _ launches => launches.startsAccepted valid) patience

end Sandbox

namespace Operation

theorem startsAccepted_of_sends {operation : Operation} {sandbox : Sandbox} {request : Request}
    {given : Option Float → Prop} (other : operation ≠ .start)
    (sends : operation.Sends given sandbox request) : request.StartsAccepted := by
  have errand : (sandbox.IsLive ∧ ∃ errand, sandbox.Makes given errand request) →
      request.StartsAccepted := fun ⟨live, _, makes⟩ => (makes.runs live).2.startsAccepted
  cases operation with
  | start => exact absurd rfl other
  | stop => exact sends ▸ sandbox.startsAccepted_stopRequest
  | close => exact sends ▸ sandbox.startsAccepted_stopRequest
  | status => exact sends ▸ sandbox.startsAccepted_statusRequest _ _
  | liveness => exact sends ▸ sandbox.startsAccepted_statusRequest _ _
  | _ => exact errand sends

theorem confined_carryOut_accepted (patience : Nat) (operation : Operation) (sandbox : Sandbox) :
    (operation.carryOut patience sandbox).Confined (Action.Within Request.StartsAccepted) := by
  have performed : (operation.perform patience sandbox).Confined
      (Action.Within Request.StartsAccepted) := by
    by_cases starts : operation = .start
    · rw [starts]
      exact sandbox.confined_start_accepted patience
    · exact (confined_sends operation.givesOnly_any sandbox patience).mono fun _ within =>
        within.mono fun _ => startsAccepted_of_sends starts
  rwa [perform_eq_carryOut, Program.confined_map_iff] at performed

end Operation

theorem GroupRun.allowed_of_andThen {First Result State : Type} {allowed : Action → Prop}
    {first : GroupRun First State} {next : First → State → GroupRun Result State}
    (before : ∀ entry ∈ first.events, allowed entry.2.action)
    (after : ∀ result state, ∀ entry ∈ (next result state).events, allowed entry.2.action) :
    ∀ entry ∈ (first.andThen next).events, allowed entry.2.action := by
  intro entry member
  rw [andThen] at member
  split at member
  · exact before entry member
  · rcases List.mem_append.mp member with earlier | later
    · exact before entry earlier
    · exact after _ _ entry later

namespace Client

variable {Result State : Type}

/-- Whatever the world answers, the events of a client are what its calls may do. -/
theorem within_of_run {permitted : Request → Prop} {patience : Nat}
    (operates : ∀ (operation : Operation) (sandbox : Sandbox),
      (operation.carryOut patience sandbox).Confined (Action.Within permitted))
    (groups : ∀ (operation : GroupOperation) (group : Group),
      (operation.perform patience group).Confined (Action.Within permitted))
    (client : Client Result) (world : GroupWorld State) (state : State) :
    ∀ entry ∈ (client.run world patience state).events,
      Action.Within permitted entry.2.action := by
  induction client generalizing state with
  | done result => simp [run]
  | make call next ih =>
      refine GroupRun.allowed_of_andThen ?_ fun answer state => ih answer state
      intro entry member
      obtain ⟨event, own, rfl⟩ := List.mem_map.mp member
      exact (call.confined_program operates).allowed_of_admits (Program.admits_run _ _ _) event own
  | callGroup group operation schedules next ih =>
      refine GroupRun.allowed_of_andThen ?_ fun answer state => ih answer state
      exact (groups operation group).allowed_of_admits (GroupProgram.admits_runFrom _ _ _ _ _)

/-- Every request that is made when a client runs starts a sandbox with an accepted configuration, if it
starts one. -/
theorem startsAccepted_of_run (client : Client Result) (world : GroupWorld State) (patience : Nat)
    (state : State) {entry : GroupEvent} {request : Request}
    (member : entry ∈ (client.run world patience state).events)
    (requests : entry.2.action = .request request) : request.StartsAccepted := by
  have within := within_of_run (Operation.confined_carryOut_accepted patience)
    (fun operation group => operation.confined_perform
      (fun member => member.confined_start_accepted patience) Sandbox.startsAccepted_stopRequest group)
    client world state entry member
  rwa [requests] at within

end Client

end SandboxClient
