import SandboxClient.Proofs.Lifetime.Addressing

/-!
# Stops against starts

A launch, which is a start that brings the handle alive, allows one call that stops the sandbox, and the
handle is alive exactly while that call has not been made.  So the calls to stop never outnumber the
launches, and between two launches there is at most one of them.
-/

namespace SandboxClient

/-- How many of some calls ask the service of a handle to stop a sandbox. -/
abbrev Sandbox.stopCalls (sandbox : Sandbox) (calls : List Contact) : Nat :=
  sandbox.callsTo Errand.stop.endpoint calls

def Deed.calls (deed : Deed) : List Contact :=
  Event.contacts deed.events

/-- Whether a deed brought the handle alive. -/
def Deed.launches : Deed → Bool
  | ⟨.start, before, _, outcome, _⟩ => before.state ≠ .alive && outcome.toBool
  | _ => false

/-- The stop calls that a handle has left: one if it is alive. -/
def Sandbox.stopsLeft (sandbox : Sandbox) : Nat :=
  if sandbox.state = .alive then 1 else 0

variable {first last handle : Sandbox} {operation : Operation} {patience : Nat}
  {events : List Event} {deeds earlier : List Deed}

namespace Sandbox

theorem stopCalls_append (sandbox : Sandbox) (calls others : List Contact) :
    sandbox.stopCalls (calls ++ others) = sandbox.stopCalls calls + sandbox.stopCalls others :=
  sandbox.callsTo_append _ calls others

theorem stopCalls_eq_of_config_eq (same : last.config = first.config) :
    last.stopCalls = first.stopCalls := by
  funext calls
  rw [stopCalls, callsTo_eq_of_config_eq same]

theorem stopsLeft_le_one (sandbox : Sandbox) : sandbox.stopsLeft ≤ 1 := by
  rw [stopsLeft]
  split <;> omega

theorem stopsLeft_of_alive (alive : handle.state = .alive) : handle.stopsLeft = 1 := by
  simp [stopsLeft, alive]

theorem stopsLeft_of_not_alive (idle : handle.state ≠ .alive) : handle.stopsLeft = 0 := by
  simp [stopsLeft, idle]

end Sandbox

/-! ## One operation -/

theorem Operation.config_eq {outcome : Except Error Unit}
    (admitted : (operation.perform patience handle).Admits events (some (outcome, last))) :
    last.config = handle.config := by
  cases kind : operation.isService with
  | true =>
      have unchanged : last = handle := Operation.after_eq_of_isService kind admitted
      rw [unchanged]
  | false =>
      have stopping : ∀ {after? : Option Sandbox}, handle.stop.Admits events after? →
          some (outcome, last) = (after?.map fun after => (.ok (), after)) →
          last.config = handle.config := by
        intro after? stopped result_eq
        rcases Sandbox.stop_cases stopped with ⟨_, _, rfl⟩ | ⟨_, _, rfl⟩
        · cases result_eq
          rfl
        · cases result_eq
          rfl
      cases operation with
      | start =>
          rcases Sandbox.start_cases admitted with ⟨_, _, rfl, _⟩ | ⟨_, _, rfl, _⟩ |
            ⟨_, ⟨_, rfl⟩ | ⟨_, _, _, _, _, _, rfl⟩⟩ <;> rfl
      | stop =>
          obtain ⟨_, stopped, result_eq⟩ := Operation.admits_stop_of_perform rfl admitted
          exact stopping stopped result_eq
      | close =>
          obtain ⟨_, stopped, result_eq⟩ := Operation.admits_stop_of_perform rfl admitted
          exact stopping stopped result_eq
      | _ => cases kind

/-- Only stopping calls the endpoint that stops a sandbox. -/
theorem Operation.stopCalls_eq_zero {result? : Option (Except Error Unit × Sandbox)}
    (other : operation.stops = false)
    (admitted : (operation.perform patience handle).Admits events result?) :
    handle.stopCalls (Event.contacts events) = 0 := by
  have served : ∀ {request : Request}, (∃ errand, errand ≠ .stop ∧ handle.Runs errand request) →
      request.url ≠ handle.endpointUrl Errand.stop.endpoint := by
    rintro request ⟨errand, different, runs⟩ same
    rw [runs.url_eq, Sandbox.endpointUrl_inj, Sandbox.endpoint_inj] at same
    exact different same
  have looked : ∀ {id timeout}, (handle.statusRequest id timeout).url ≠
      handle.endpointUrl Errand.stop.endpoint := fun same =>
    Sandbox.endpoint_ne_status .stop _ (Sandbox.endpointUrl_inj.mp same).symm
  refine Sandbox.callsTo_eq_zero fun contact member => ?_
  have asks := Operation.asks_of_admits admitted member
  cases operation with
  | start =>
      rcases asks with scheduled | ⟨id, timeout, asked⟩
      · rw [scheduled]
        exact fun same => Sandbox.endpoint_ne_start .stop (Sandbox.endpointUrl_inj.mp same).symm
      · rw [asked]
        exact looked
  | stop => cases other
  | close => cases other
  | status => exact asks.symm ▸ looked
  | liveness => exact asks.symm ▸ looked
  | _ => exact served asks

/-- Stopping never fails.  It makes its one call exactly if the handle is alive, which it is not
afterwards. -/
theorem Sound.stop_spent {result? : Option (Except Error Unit × Sandbox)} (sound : Sound deeds handle)
    (stops : operation.stops = true)
    (admitted : (operation.perform patience handle).Admits events result?) :
    (∃ after, result? = some (.ok (), after) ∧ after.state ≠ .alive) ∧
      (Event.contacts events).map Contact.request =
        if handle.state = .alive then [handle.stopRequest] else [] := by
  obtain ⟨_, stopped, rfl⟩ := Operation.admits_stop_of_perform stops admitted
  rcases Sandbox.stop_cases stopped with ⟨ended, rfl, rfl⟩ | ⟨⟨identified, running⟩, ⟨_, only⟩, rfl⟩
  · have idle := sound.not_alive_of_ended ended
    exact ⟨⟨handle, rfl, idle⟩, by simp [idle]⟩
  · have alive := sound.alive_of_running identified running
    exact ⟨⟨_, rfl, by simp⟩, by simp [only, alive]⟩

/-- An operation uses up the stop calls that are left before it, or adds the one of a launch. -/
theorem Sound.balance_step {outcome : Except Error Unit} (sound : Sound earlier handle)
    (admitted : (operation.perform patience handle).Admits events (some (outcome, last))) :
    handle.stopCalls (Event.contacts events) + last.stopsLeft =
      (Deed.mk operation handle events outcome last).launches.toNat + handle.stopsLeft := by
  cases stops : operation.stops with
  | true =>
      obtain ⟨⟨after, result_eq, spent⟩, calls⟩ := sound.stop_spent stops admitted
      have idle : (Deed.mk operation handle events outcome last).launches = false := by
        cases operation <;> first | rfl | cases stops
      cases result_eq
      rw [Sandbox.stopCalls, handle.callsTo_eq_countP, calls, idle, Sandbox.stopsLeft_of_not_alive spent]
      by_cases alive : handle.state = .alive
      · simp [alive, Sandbox.stopsLeft_of_alive alive, Sandbox.stopRequest, Sandbox.postRequest,
          Errand.endpoint]
      · simp [alive, Sandbox.stopsLeft_of_not_alive alive]
  | false =>
      rw [Operation.stopCalls_eq_zero stops admitted]
      cases service : operation.isService with
      | true =>
          obtain rfl : last = handle := Operation.after_eq_of_isService service admitted
          have idle : (Deed.mk operation last events outcome last).launches = false := by
            cases operation <;> first | rfl | cases service
          simp [idle]
      | false =>
          cases operation with
          | start =>
              rcases Sandbox.start_cases admitted with ⟨alive, _, rfl, _⟩ | ⟨_, ⟨_, rfl⟩, rfl, _⟩ |
                ⟨⟨idle, _⟩, ⟨⟨_, rfl⟩, rfl⟩ | ⟨rfl, _, _, _, _, _, rfl⟩⟩
              · simp [Deed.launches, alive]
              · simp [Deed.launches, Except.toBool]
              · simp [Deed.launches, Except.toBool, Sandbox.stopsLeft, Sandbox.abandoned, idle]
              · simp [Deed.launches, Except.toBool, Sandbox.stopsLeft, Sandbox.settledAt, idle]
          | stop => cases stops
          | close => cases stops
          | _ => cases service

/-! ## Lifetimes -/

namespace Lifetime

theorem config_eq (life : Lifetime first deeds last) : last.config = first.config := by
  induction life with
  | idle => rfl
  | act admitted _ ih => rw [ih, Operation.config_eq admitted]

/-- Every stop call has been paid for by a launch, and a live handle has one to spare. -/
theorem balance (life : Lifetime first deeds last) (sound : Sound earlier first) :
    first.stopCalls (deeds.flatMap Deed.calls) + last.stopsLeft =
      deeds.countP Deed.launches + first.stopsLeft := by
  induction life generalizing earlier with
  | idle => simp
  | @act patience operation before after last events outcome deeds admitted rest ih =>
      have step := sound.balance_step admitted
      have later := ih (sound.step admitted)
      rw [Sandbox.stopCalls_eq_of_config_eq (Operation.config_eq admitted)] at later
      rw [List.flatMap_cons, Sandbox.stopCalls_append, Deed.calls, List.countP_cons]
      cases launched : (Deed.mk operation before events outcome after).launches with
      | true =>
          rw [launched, Bool.toNat_true] at step
          simp only [if_true]
          omega
      | false =>
          rw [launched, Bool.toNat_false] at step
          simp only [Bool.false_eq_true, if_false]
          omega

end Lifetime

/-- In what a handle went through, and in the calls of an operation that has not come back, the stop calls
never outnumber the launches, and without a launch there is at most one. -/
structure StopsPaired (deeds : List Deed) (handle : Sandbox) (underway : List Contact) : Prop where
  bounded : ∀ earlier, earlier <+: deeds →
    handle.stopCalls (earlier.flatMap Deed.calls) ≤ earlier.countP Deed.launches
  spaced : ∀ between, between <:+: deeds → between.countP Deed.launches = 0 →
    handle.stopCalls (between.flatMap Deed.calls) ≤ 1
  bounded_underway : handle.stopCalls (deeds.flatMap Deed.calls ++ underway) ≤
    deeds.countP Deed.launches
  spaced_underway : ∀ since, since <:+ deeds → since.countP Deed.launches = 0 →
    handle.stopCalls (since.flatMap Deed.calls ++ underway) ≤ 1

theorem Lifetime.stopsPaired {underway : List Contact} (life : Lifetime first deeds last)
    (sound : Sound [] first) (idle : first.state ≠ .alive)
    (left : last.stopCalls underway ≤ last.stopsLeft) : StopsPaired deeds last underway := by
  have unspent := Sandbox.stopsLeft_of_not_alive idle
  have same : ∀ {handle between after}, Lifetime handle between after → handle.config = first.config →
      after.stopCalls = first.stopCalls := by
    intro handle between after lived config_eq
    exact Sandbox.stopCalls_eq_of_config_eq (lived.config_eq.trans config_eq)
  rw [same life rfl] at left
  constructor
  · rintro earlier ⟨later, rfl⟩
    obtain ⟨middle, before, _⟩ := life.split
    have paid := before.balance sound
    rw [same life rfl]
    omega
  · rintro between ⟨earlier, later, rfl⟩ quiet
    obtain ⟨middle, before, _⟩ := life.split
    obtain ⟨start, prior, stretch⟩ := before.split
    have paid := stretch.balance (sound.lifetime prior)
    have bound := start.stopsLeft_le_one
    rw [same prior rfl] at paid
    rw [same life rfl]
    omega
  · have paid := life.balance sound
    rw [same life rfl, Sandbox.stopCalls_append]
    omega
  · rintro since ⟨earlier, rfl⟩ quiet
    obtain ⟨start, prior, stretch⟩ := life.split
    have paid := stretch.balance (sound.lifetime prior)
    have bound := start.stopsLeft_le_one
    rw [same prior rfl] at paid
    rw [same life rfl, Sandbox.stopCalls_append]
    omega

/-- What becomes of the sandboxes of a handle in the course of an operation that is asked of it. -/
structure StopAccount (deeds : List Deed) (handle : Sandbox) (operation : Operation)
    (events : List Event) (result? : Option (Except Error Unit × Sandbox)) : Prop where
  paired : StopsPaired deeds handle (Event.contacts events)
  /-- Stopping never fails and leaves no live handle, whatever the service answers to its one call, which
  it makes exactly if the handle is alive. -/
  stopped : operation.stops = true →
    (∃ after, result? = some (.ok (), after) ∧ after.state ≠ .alive) ∧
      (Event.contacts events).map Contact.request =
        if handle.state = .alive then [handle.stopRequest] else []
  /-- Nothing else stops a sandbox. -/
  others : operation.stops = false → handle.stopCalls (Event.contacts events) = 0

theorem Lifetime.stopAccount {result? : Option (Except Error Unit × Sandbox)}
    (life : Lifetime first deeds handle) (sound : Sound [] first) (idle : first.state ≠ .alive)
    (admitted : (operation.perform patience handle).Admits events result?) :
    StopAccount deeds handle operation events result? := by
  have here : Sound deeds handle := sound.lifetime life
  refine ⟨life.stopsPaired sound idle ?_, fun stops => here.stop_spent stops admitted,
    fun other => Operation.stopCalls_eq_zero other admitted⟩
  cases stops : operation.stops with
  | false => simp [Operation.stopCalls_eq_zero stops admitted]
  | true =>
      rw [Sandbox.stopCalls, handle.callsTo_eq_countP, (here.stop_spent stops admitted).2]
      by_cases alive : handle.state = .alive
      · rw [Sandbox.stopsLeft_of_alive alive, if_pos alive]
        exact List.countP_le_length
      · simp [alive]

end SandboxClient
