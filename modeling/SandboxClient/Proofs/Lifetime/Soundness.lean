import SandboxClient.Proofs.Lifetime.History
import SandboxClient.Proofs.Sandbox.Lifecycle

/-!
# Handles agree with their histories

Whatever is asked of a new handle, in whatever order and with whatever answers, its state and its
identity are what its history says they are.
-/

namespace SandboxClient

/-- A handle agrees with its history. -/
structure Sound (deeds : List Deed) (sandbox : Sandbox) : Prop where
  /-- No operation comes back in the middle of a start. -/
  settled : sandbox.state ≠ .starting
  /-- The handle has an identity exactly if the latest start succeeded. -/
  identified_iff : sandbox.id ≠ [] ↔
    ∃ latest since, LatestStart deeds latest since ∧ latest.outcome = .ok ()
  /-- The identity is the one in the answer to the first call of that start. -/
  identity : ∀ latest since, LatestStart deeds latest since → latest.outcome = .ok () →
    ∃ answer placement,
      (Event.contacts latest.events).head? = some ⟨latest.before.scheduleRequest, answer⟩ ∧
      Sandbox.grantedPlacement? answer = some placement ∧ sandbox.id = placement.id
  /-- The handle is alive exactly if the latest start succeeded and it was not stopped since. -/
  alive_iff : sandbox.state = .alive ↔
    ∃ latest since, LatestStart deeds latest since ∧ latest.outcome = .ok () ∧
      ∀ other ∈ since, other.operation.stops = false
  /-- An uninitialized handle has not reached the service and knows of no sandbox. -/
  untouched : sandbox.state = .uninitialized →
    (∀ deed ∈ deeds, Event.contacts deed.events = []) ∧
      sandbox.id = [] ∧ sandbox.hostName = [] ∧ sandbox.hostAddress = []
  /-- Only starting and stopping change the handle. -/
  kept : ∀ deed ∈ deeds, deed.operation.isService = true → deed.after = deed.before

namespace Sound

variable {deeds : List Deed} {deed : Deed} {before after : Sandbox} {patience : Nat}
  {operation : Operation} {events : List Event} {outcome : Except Error Unit}

theorem of_create (config : SandboxConfig) (freshKey logger : Bytes) :
    Sound [] (Sandbox.create config freshKey logger) where
  settled := by simp [Sandbox.create]
  identified_iff := by simp [Sandbox.create, LatestStart]
  identity := by simp [LatestStart]
  alive_iff := by simp [Sandbox.create, LatestStart]
  untouched := by simp [Sandbox.create]
  kept := by simp

theorem id_ne_nil_of_alive (sound : Sound deeds before) (alive : before.state = .alive) :
    before.id ≠ [] := by
  obtain ⟨latest, since, isLatest, succeeded, _⟩ := sound.alive_iff.mp alive
  exact sound.identified_iff.mpr ⟨latest, since, isLatest, succeeded⟩

/-- A handle that has something to stop is alive. -/
theorem alive_of_running (sound : Sound deeds before) (identified : before.id ≠ [])
    (running : before.state ≠ .stopped) : before.state = .alive := by
  cases state_eq : before.state with
  | uninitialized => exact absurd (sound.untouched state_eq).2.1 identified
  | starting => exact absurd state_eq sound.settled
  | alive => rfl
  | stopped => exact absurd state_eq running

/-- A handle without anything to stop is not alive. -/
theorem not_alive_of_ended (sound : Sound deeds before)
    (ended : before.id = [] ∨ before.state = .stopped) : before.state ≠ .alive := by
  intro alive
  rcases ended with unidentified | stopped
  · exact sound.id_ne_nil_of_alive alive unidentified
  · rw [stopped] at alive
    cases alive

/-- A start that did more than refuse decides the state and the identity anew. -/
theorem of_starts (sound : Sound deeds deed.before) (starts : deed.Starts)
    (settled : deed.after.state ≠ .starting) (initialized : deed.after.state ≠ .uninitialized)
    (identified_iff : deed.after.id ≠ [] ↔ deed.outcome = .ok ())
    (identity : deed.outcome = .ok () → ∃ answer placement,
      (Event.contacts deed.events).head? = some ⟨deed.before.scheduleRequest, answer⟩ ∧
      Sandbox.grantedPlacement? answer = some placement ∧ deed.after.id = placement.id)
    (alive_iff : deed.after.state = .alive ↔ deed.outcome = .ok ()) :
    Sound (deeds ++ [deed]) deed.after where
  settled := settled
  identified_iff := by simp [latestStart_append_of_starts starts, identified_iff]
  identity := by
    intro latest since isLatest succeeded
    obtain ⟨rfl, rfl⟩ := (latestStart_append_of_starts starts).mp isLatest
    exact identity succeeded
  alive_iff := by
    rw [alive_iff]
    constructor
    · intro succeeded
      exact ⟨deed, [], (latestStart_append_of_starts starts).mpr ⟨rfl, rfl⟩, succeeded, by simp⟩
    · rintro ⟨latest, since, isLatest, succeeded, _⟩
      obtain ⟨rfl, rfl⟩ := (latestStart_append_of_starts starts).mp isLatest
      exact succeeded
  untouched := fun new => absurd new initialized
  kept := by
    refine List.forall_mem_append.mpr ⟨sound.kept, List.forall_mem_singleton.mpr ?_⟩
    intro service
    exact absurd starts.1 (Operation.ne_start_of_isService service)

/-- Any other operation keeps the identity, and the state unless it stops the handle. -/
theorem of_not_starts (sound : Sound deeds deed.before) (idle : ¬ deed.Starts)
    (settled : deed.after.state ≠ .starting) (same : deed.after.id = deed.before.id)
    (alive_iff : deed.after.state = .alive ↔
      deed.before.state = .alive ∧ deed.operation.stops = false)
    (untouched : deed.after.state = .uninitialized →
      deed.after = deed.before ∧ Event.contacts deed.events = [])
    (kept : deed.operation.isService = true → deed.after = deed.before) :
    Sound (deeds ++ [deed]) deed.after where
  settled := settled
  identified_iff := by
    rw [same, sound.identified_iff]
    constructor
    · rintro ⟨latest, since, isLatest, succeeded⟩
      exact ⟨latest, since ++ [deed],
        (latestStart_append_of_not_starts idle).mpr ⟨since, rfl, isLatest⟩, succeeded⟩
    · rintro ⟨latest, since, isLatest, succeeded⟩
      obtain ⟨init, rfl, earlier⟩ := (latestStart_append_of_not_starts idle).mp isLatest
      exact ⟨latest, init, earlier, succeeded⟩
  identity := by
    intro latest since isLatest succeeded
    obtain ⟨init, rfl, earlier⟩ := (latestStart_append_of_not_starts idle).mp isLatest
    rw [same]
    exact sound.identity latest init earlier succeeded
  alive_iff := by
    rw [alive_iff, sound.alive_iff]
    constructor
    · rintro ⟨⟨latest, since, isLatest, succeeded, running⟩, goesOn⟩
      exact ⟨latest, since ++ [deed],
        (latestStart_append_of_not_starts idle).mpr ⟨since, rfl, isLatest⟩, succeeded,
        List.forall_mem_append.mpr ⟨running, List.forall_mem_singleton.mpr goesOn⟩⟩
    · rintro ⟨latest, since, isLatest, succeeded, running⟩
      obtain ⟨init, rfl, earlier⟩ := (latestStart_append_of_not_starts idle).mp isLatest
      obtain ⟨before, goesOn⟩ := List.forall_mem_append.mp running
      exact ⟨⟨latest, init, earlier, succeeded, before⟩, goesOn deed (List.mem_singleton_self deed)⟩
  untouched := by
    intro new
    obtain ⟨unchanged, silent⟩ := untouched new
    rw [unchanged] at new ⊢
    obtain ⟨quiet, unknown⟩ := sound.untouched new
    exact ⟨List.forall_mem_append.mpr ⟨quiet, List.forall_mem_singleton.mpr silent⟩, unknown⟩
  kept := List.forall_mem_append.mpr ⟨sound.kept, List.forall_mem_singleton.mpr kept⟩

theorem of_unchanged (sound : Sound deeds before)
    (idle : ¬ (Deed.mk operation before events outcome before).Starts)
    (stopped : operation.stops = true → before.state ≠ .alive)
    (silent : before.state = .uninitialized → Event.contacts events = []) :
    Sound (deeds ++ [⟨operation, before, events, outcome, before⟩]) before := by
  refine sound.of_not_starts idle sound.settled rfl ?_ (fun new => ⟨rfl, silent new⟩) fun _ => rfl
  constructor
  · intro alive
    refine ⟨alive, ?_⟩
    cases stops : operation.stops with
    | true => exact absurd alive (stopped stops)
    | false => rfl
  · exact And.left

theorem step_start (sound : Sound deeds before)
    (admitted : (before.start patience).Admits events (some (outcome, after))) :
    Sound (deeds ++ [⟨.start, before, events, outcome, after⟩]) after := by
  rcases Sandbox.start_cases admitted with ⟨alive, _, rfl, silent⟩ | ⟨invalid, _, rfl, silent⟩ |
    ⟨genuine, ⟨⟨error, rfl⟩, rfl⟩ | ⟨rfl, answer, placement, status, first, grants, rfl⟩⟩
  · exact sound.of_unchanged (fun starts => starts.2.1 alive) (by simp [Operation.stops])
      fun _ => silent
  · exact sound.of_unchanged (fun starts => invalid starts.2.2) (by simp [Operation.stops])
      fun _ => silent
  · have starts : (Deed.mk .start before events (.error error) before.abandoned).Starts :=
      ⟨rfl, genuine⟩
    exact sound.of_starts starts (by simp [Sandbox.abandoned]) (by simp [Sandbox.abandoned])
      (by simp [Sandbox.abandoned]) (by simp) (by simp [Sandbox.abandoned])
  · have starts : (Deed.mk .start before events (.ok ())
        (before.settledAt placement status)).Starts := ⟨rfl, genuine⟩
    have identified := Sandbox.id_ne_nil_of_grantedPlacement? grants
    exact sound.of_starts starts (by simp [Sandbox.settledAt]) (by simp [Sandbox.settledAt])
      (by simpa [Sandbox.settledAt] using identified)
      (fun _ => ⟨answer, placement, first, grants, rfl⟩) (by simp [Sandbox.settledAt])

theorem step_stop (sound : Sound deeds before) (stops : operation.stops = true)
    (admitted : (operation.perform patience before).Admits events (some (outcome, after))) :
    Sound (deeds ++ [⟨operation, before, events, outcome, after⟩]) after := by
  have idle : ¬ (Deed.mk operation before events outcome after).Starts :=
    Deed.not_starts (Operation.ne_start_of_stops stops)
  have notService : operation.isService ≠ true := by
    cases operation <;> simp_all [Operation.stops, Operation.isService]
  obtain ⟨_, stopped, result_eq⟩ := Operation.admits_stop_of_perform stops admitted
  rcases Sandbox.stop_cases stopped with ⟨ended, rfl, rfl⟩ | ⟨_, _, rfl⟩
  · cases result_eq
    exact sound.of_unchanged idle (fun _ => sound.not_alive_of_ended ended) fun _ => rfl
  · cases result_eq
    exact sound.of_not_starts idle (by simp) rfl (by simp [stops]) (by simp)
      fun service => absurd service notService

theorem step_service (sound : Sound deeds before) (service : operation.isService = true)
    (admitted : (operation.perform patience before).Admits events (some (outcome, after))) :
    Sound (deeds ++ [⟨operation, before, events, outcome, after⟩]) after := by
  obtain rfl : after = before := Operation.after_eq_of_isService service admitted
  have idle : ¬ (Deed.mk operation after events outcome after).Starts :=
    Deed.not_starts (Operation.ne_start_of_isService service)
  have goesOn : operation.stops = false := by
    cases operation <;> simp_all [Operation.stops, Operation.isService]
  refine sound.of_unchanged idle (by simp [goesOn]) ?_
  -- a handle that is still uninitialized has no identity to make a request with
  intro new
  obtain ⟨_, unidentified, _⟩ := sound.untouched new
  have quiet := (Operation.confined_perform_of_unidentified service unidentified
    patience).allowed_of_admits admitted
  exact Event.contacts_eq_nil_of_isQuiet quiet

/-- Whatever operation comes back, the handle still agrees with its history. -/
theorem step (sound : Sound deeds before)
    (admitted : (operation.perform patience before).Admits events (some (outcome, after))) :
    Sound (deeds ++ [⟨operation, before, events, outcome, after⟩]) after := by
  cases kind : operation.isService with
  | true => exact sound.step_service kind admitted
  | false =>
      cases operation with
      | start => exact sound.step_start admitted
      | stop => exact sound.step_stop rfl admitted
      | close => exact sound.step_stop rfl admitted
      | _ => cases kind

end Sound

/-! ## Whole histories -/

variable {State : Type} {earlier deeds : List Deed} {sandbox last : Sandbox}

theorem Sound.lifetime (sound : Sound earlier sandbox) (life : Lifetime sandbox deeds last) :
    Sound (earlier ++ deeds) last := by
  induction life generalizing earlier with
  | idle => simpa using sound
  | act admitted _ ih => simpa using ih (sound.step admitted)

theorem Sound.serve (sound : Sound deeds sandbox) (world : World State) (patience : Nat)
    (operations : List Operation) (state : State) (count : Nat) :
    let further := (Sandbox.serve world patience operations sandbox state).take count
    Sound (deeds ++ further) (Deed.handleAfter sandbox further) :=
  sound.lifetime (lifetime_serve world patience operations sandbox state count)

/-- At any point in the life of a handle, its state and its identity agree with what was asked of it so
far, whatever the service, the clock and the file system answered. -/
theorem serve_keeps_handle_sound (config : SandboxConfig) (freshKey logger : Bytes)
    (world : World State) (patience : Nat) (operations : List Operation) (state : State)
    (count : Nat) :
    let sandbox := Sandbox.create config freshKey logger
    let deeds := (Sandbox.serve world patience operations sandbox state).take count
    Sound deeds (Deed.handleAfter sandbox deeds) := by
  simpa using (Sound.of_create config freshKey logger).serve world patience operations state count

end SandboxClient
