import SandboxClient.Proofs.Lifetime.Soundness

/-!
# Which sandbox a call is about

A handle that is stopped keeps its identity until the next start, and a handle that is started again
gets another one.  So it takes the history of a handle to say which sandbox a call must name: the one
that the latest start was granted.  Every errand names that one, and a handle that is not alive runs no
errands at all.
-/

namespace SandboxClient

/-- An identity is the one that the latest start got from the service, and that start succeeded. -/
def GrantedLast (deeds : List Deed) (id : Bytes) : Prop :=
  ∃ latest since answer placement, LatestStart deeds latest since ∧ latest.outcome = .ok () ∧
    (Event.contacts latest.events).head? = some ⟨latest.before.scheduleRequest, answer⟩ ∧
    Sandbox.grantedPlacement? answer = some placement ∧ placement.id = id

variable {deeds : List Deed} {handle : Sandbox} {operation : Operation} {patience : Nat}
  {events : List Event} {result? : Option (Except Error Unit × Sandbox)}

theorem Sound.grantedLast (sound : Sound deeds handle) (alive : handle.state = .alive) :
    GrantedLast deeds handle.id := by
  obtain ⟨latest, since, isLatest, succeeded, _⟩ := sound.alive_iff.mp alive
  obtain ⟨answer, placement, first, grants, same⟩ := sound.identity latest since isLatest succeeded
  exact ⟨latest, since, answer, placement, isLatest, succeeded, first, grants, same.symm⟩

/-- An operation reaches no sandbox but the one its handle stands for. -/
structure Addressed (deeds : List Deed) (handle : Sandbox) (operation : Operation)
    (events : List Event) (result? : Option (Except Error Unit × Sandbox)) : Prop where
  /-- Errands are run for a live handle only and name the sandbox that the latest start was granted. -/
  errands : ∀ contact ∈ Event.contacts events, ∀ errand : Errand,
    contact.request.url = handle.endpointUrl errand.endpoint →
      operation ≠ .start ∧ handle.state = .alive ∧
        ∃ id, contact.request.identity? = some id ∧ GrantedLast deeds id
  /-- All other calls belong to a start or look at the status of the sandbox of the handle. -/
  others : operation ≠ .start → ∀ contact ∈ Event.contacts events,
    (∃ errand : Errand, contact.request.url = handle.endpointUrl errand.endpoint) ∨
      operation.looks = true ∧ contact.request = Operation.lookRequest handle
  /-- Looking at the status makes one call, unless there is no identity to ask about. -/
  looks : operation.looks = true → (Event.contacts events).map Contact.request =
    if handle.id = [] then [] else [Operation.lookRequest handle]
  /-- A handle that is not alive refuses the operations that run errands, and nothing happens. -/
  refused : ∀ name, operation.guard? = some name → handle.state ≠ .alive →
    events = [] ∧ result? = some (.error (.notStarted name), handle)

namespace Sound

/-! ## One operation -/

/-- What an operation asks for is an errand for the live sandbox of the handle, or it belongs to a start
or looks at the status, which the endpoints of errands do not do. -/
theorem runs_or_unlike {request : Request} (sound : Sound deeds handle)
    (asks : operation.Asks handle request) :
    (operation ≠ .start ∧ ∃ errand, handle.Runs errand request) ∨
      ((operation ≠ .start → operation.looks = true ∧ request = Operation.lookRequest handle) ∧
        ∀ errand : Errand, request.url ≠ handle.endpointUrl errand.endpoint) := by
  have unlike_status : ∀ id timeout errand,
      (handle.statusRequest id timeout).url ≠ handle.endpointUrl (Errand.endpoint errand) :=
    fun id timeout errand same =>
      Sandbox.endpoint_ne_status errand id (Sandbox.endpointUrl_inj.mp same).symm
  have stopping : (handle.id ≠ [] ∧ handle.state ≠ .stopped) ∧ request = handle.stopRequest →
      ∃ errand, handle.Runs errand request := by
    rintro ⟨⟨identified, running⟩, rfl⟩
    exact ⟨.stop, ⟨sound.alive_of_running identified running, identified⟩, rfl, rfl⟩
  have looking : request = Operation.lookRequest handle →
      ∀ errand : Errand, request.url ≠ handle.endpointUrl errand.endpoint := by
    rintro rfl errand
    exact unlike_status _ _ errand
  have serving : (∃ errand, errand ≠ .stop ∧ handle.Runs errand request) →
      ∃ errand, handle.Runs errand request := fun ⟨errand, _, runs⟩ => ⟨errand, runs⟩
  cases operation with
  | start =>
      refine .inr ⟨fun other => absurd rfl other, ?_⟩
      rintro errand same
      rcases asks with rfl | ⟨id, timeout, rfl⟩
      · exact Sandbox.endpoint_ne_start errand (Sandbox.endpointUrl_inj.mp same).symm
      · exact unlike_status id timeout errand same
  | stop => exact .inl ⟨nofun, stopping asks⟩
  | close => exact .inl ⟨nofun, stopping asks⟩
  | status => exact .inr ⟨fun _ => ⟨rfl, asks⟩, looking asks⟩
  | liveness => exact .inr ⟨fun _ => ⟨rfl, asks⟩, looking asks⟩
  | _ => exact .inl ⟨nofun, serving asks⟩

/-- Whatever is asked of a handle that agrees with its history, the calls are about its sandbox. -/
theorem addressed (sound : Sound deeds handle)
    (admitted : (operation.perform patience handle).Admits events result?) :
    Addressed deeds handle operation events result? where
  errands := by
    intro contact member errand same
    rcases sound.runs_or_unlike (Operation.asks_of_admits admitted member) with
      ⟨other, _, runs⟩ | ⟨_, unlike⟩
    · have alive := runs.live.1
      exact ⟨other, alive, handle.id, runs.identity_eq, sound.grantedLast alive⟩
    · exact absurd same (unlike errand)
  others := by
    intro other contact member
    rcases sound.runs_or_unlike (Operation.asks_of_admits admitted member) with
      ⟨_, errand, runs⟩ | ⟨looks, _⟩
    · exact .inl ⟨errand, runs.url_eq⟩
    · exact .inr (looks other)
  looks := fun look => Operation.contacts_look look admitted
  refused := by
    intro name guarded idle
    rw [Operation.perform_of_not_isLive guarded fun live => idle live.1] at admitted
    exact Program.admits_done_iff.mp admitted

end Sound

/-! ## Whole histories -/

/-- After any operations, whatever the world answered, the next one reaches no sandbox but the one that
the latest start was granted.  It is performed in a world of its own, and it need not come back. -/
theorem serve_addresses_calls {State Other : Type} (config : SandboxConfig) (freshKey logger : Bytes)
    (world : World State) (patience : Nat) (operations : List Operation) (state : State) (count : Nat)
    (next : Operation) (other : World Other) (rounds : Nat) (now : Other) :
    let sandbox := Sandbox.create config freshKey logger
    let deeds := (Sandbox.serve world patience operations sandbox state).take count
    let handle := Deed.handleAfter sandbox deeds
    let run := (next.perform rounds handle).run other now
    Addressed deeds handle next run.events run.result? := by
  have sound := (Sound.of_create config freshKey logger).serve world patience operations state count
  simp only [List.nil_append] at sound
  exact sound.addressed (Program.admits_run other _ now)

end SandboxClient
