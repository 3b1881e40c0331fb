import SandboxClient.Proofs.Config.Headers
import SandboxClient.Proofs.Lifetime.Stopping

/-!
# Headers over a lifetime

Every call of a handle carries its headers, which depend on its configuration and its routing key.  No
operation changes either, so that all calls in the life of a handle carry the same headers.
-/

namespace SandboxClient

variable {sandbox after first last : Sandbox} {patience : Nat} {operation : Operation}
  {events : List Event} {request : Request} {deeds : List Deed}

theorem Sandbox.Makes.headers_eq {given : Option Float → Prop} {errand : Errand}
    (makes : sandbox.Makes given errand request) : request.headers = sandbox.headers := by
  cases makes <;> rfl

namespace Operation

theorem headers_eq_of_sends {given : Option Float → Prop}
    (sends : operation.Sends given sandbox request) : request.headers = sandbox.headers := by
  cases operation with
  | start => rcases sends with rfl | ⟨id, timeout, _, rfl⟩ <;> rfl
  | stop => exact congrArg Request.headers sends
  | close => exact congrArg Request.headers sends
  | status => exact congrArg Request.headers sends
  | liveness => exact congrArg Request.headers sends
  | _ => exact sends.2.choose_spec.headers_eq

/-- The calls of an operation carry the headers of the handle, whatever the answers. -/
theorem headers_of_admits {result? : Option (Except Error Unit × Sandbox)}
    (admitted : (operation.perform patience sandbox).Admits events result?) :
    ∀ call ∈ Event.contacts events, call.request.headers = sandbox.headers := by
  intro call member
  have confined := operation.confined_sends operation.givesOnly_any sandbox patience
  exact headers_eq_of_sends (confined.permitted_of_admits admitted call member)

theorem routeKey_eq {outcome : Except Error Unit}
    (admitted : (operation.perform patience sandbox).Admits events (some (outcome, after))) :
    after.routeKey = sandbox.routeKey := by
  have stopping : operation.stops = true → after.routeKey = sandbox.routeKey := by
    intro stops
    obtain ⟨_, stopped, result_eq⟩ := admits_stop_of_perform stops admitted
    rcases Sandbox.stop_cases stopped with ⟨_, _, rfl⟩ | ⟨_, _, rfl⟩
    · cases result_eq
      rfl
    · cases result_eq
      rfl
  cases operation with
  | start =>
      rcases Sandbox.start_cases admitted with ⟨_, _, rfl, _⟩ | ⟨_, _, rfl, _⟩ |
        ⟨_, ⟨_, rfl⟩ | ⟨_, _, _, _, _, _, rfl⟩⟩ <;> rfl
  | stop => exact stopping rfl
  | close => exact stopping rfl
  | _ => exact congrArg Sandbox.routeKey (after_eq_of_isService rfl admitted)

theorem headers_eq {outcome : Except Error Unit}
    (admitted : (operation.perform patience sandbox).Admits events (some (outcome, after))) :
    after.headers = sandbox.headers := by
  rw [Sandbox.headers, config_eq admitted, routeKey_eq admitted, Sandbox.headers]

end Operation

theorem Lifetime.headers_eq (life : Lifetime first deeds last) : last.headers = first.headers := by
  induction life with
  | idle => rfl
  | act admitted _ ih => exact ih.trans (Operation.headers_eq admitted)

/-- All calls in the life of a handle carry the headers that it had first. -/
theorem Lifetime.headers_of_calls (life : Lifetime first deeds last) :
    ∀ deed ∈ deeds, ∀ call ∈ deed.calls, call.request.headers = first.headers := by
  induction life with
  | idle => simp
  | act admitted _ ih =>
      refine List.forall_mem_cons.mpr ⟨Operation.headers_of_admits admitted, ?_⟩
      intro deed later call member
      exact (ih deed later call member).trans (Operation.headers_eq admitted)

end SandboxClient
