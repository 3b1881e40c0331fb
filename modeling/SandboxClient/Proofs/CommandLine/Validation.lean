import SandboxClient.Proofs.CommandLine.Session
import SandboxClient.Proofs.Lifetime.Launching

/-!
# Configurations and what is sent of them

The checks of a configuration and what follows from them for the requests: what a caller of the library, and
what the program, asks the service to start.
-/

namespace SandboxClient

namespace CommandLine

variable {patience : Nat} {options : Options} {sandbox : Sandbox} {events : List Event}

theorem Served.startsAccepted {started? : Option Sandbox} {code? : Option Int}
    (served : Served patience options sandbox started? events code?) :
    ∀ call ∈ Event.contacts events, call.request.StartsAccepted := by
  have starting : ∀ {first : List Event} {result? : Option (Except Error Unit × Sandbox)},
      (sandbox.start patience).Admits first result? →
        ∀ call ∈ Event.contacts first, call.request.StartsAccepted :=
    (sandbox.confined_start_accepted patience).permitted_of_admits
  have commands : ∀ {started : Sandbox} {second : List Event}
      {outcome? : Option (Except Error Observation)},
      (runCommand patience started options).outcome.Admits second outcome? →
        ∀ call ∈ Event.contacts second, call.request.StartsAccepted := by
    intro started second outcome? command call member
    obtain ⟨_, _, runs⟩ := ((confined_runCommand patience started options).mono fun _ =>
      Sandbox.serves_of_does).allowed_of_admits command _ (Event.mem_of_mem_contacts member)
    exact runs.startsAccepted
  cases served with
  | startless starts => exact starting starts
  | unstarted starts => exact starting starts
  | endless starts command =>
      rw [Event.contacts_append]
      exact fun call => List.forall_mem_append.mpr ⟨starting starts, commands command⟩ call
  | @stopped started _ _ _ _ _ starts command stopping =>
      rw [Event.contacts_append, Event.contacts_append]
      have stops := started.confined_stop.permitted_of_admits stopping
      refine fun call => List.forall_mem_append.mpr
        ⟨List.forall_mem_append.mpr ⟨starting starts, commands command⟩, ?_⟩ call
      exact fun call member => stops call member ▸ started.startsAccepted_stopRequest

theorem startsAccepted_of_program {surroundings : Surroundings} {arguments : List Bytes}
    {freshKey : Bytes} {code? : Option Int}
    (admitted : (program patience surroundings arguments freshKey).Admits events code?) :
    ∀ call ∈ Event.contacts events, call.request.StartsAccepted := by
  cases account_of_admits admitted with
  | refused _ silent => simp [silent]
  | commandless _ silent => simp [silent]
  | helped _ silent => simp [silent]
  | served _ _ _ _ trimmed served =>
      rw [← trimmed.contacts_eq]
      exact served.startsAccepted

end CommandLine

/-- A configuration passes the checks exactly if it is within its bounds or has a number of processors that
is not a number, and is refused as a bad parameter otherwise.  So is the configuration of a group.  All
that a caller of the library or the program ever asks the service to start has passed the checks. -/
theorem validate_guards_starts (config : SandboxConfig) (group : GroupConfig) {Result State : Type}
    (client : Client Result) (groupWorld : GroupWorld State) (patience : Nat) (state : State)
    {Outside : Type} (world : World Outside) (outside : Outside) (surroundings : Surroundings)
    (arguments : List Bytes) (freshKey : Bytes) :
    let run := (CommandLine.program patience surroundings arguments freshKey).run world outside
    ((config.validate = .ok () ↔ config.Accepted) ∧
      (¬ config.Accepted → ∃ message, config.validate = .error (.invalidParameter message))) ∧
    ((group.validate = .ok () ↔ group.Accepted) ∧
      (¬ group.Accepted → ∃ message, group.validate = .error (.invalidParameter message))) ∧
    (∀ entry ∈ (client.run groupWorld patience state).events, ∀ request,
      entry.2.action = .request request → request.StartsAccepted) ∧
    ∀ call ∈ Event.contacts run.events, call.request.StartsAccepted := by
  intro run
  refine ⟨⟨config.checks_validate.eq_ok_iff, config.checks_validate.refused⟩,
    ⟨group.checks_validate.eq_ok_iff, group.checks_validate.refused⟩, ?_, ?_⟩
  · intro entry member request requests
    exact client.startsAccepted_of_run groupWorld patience state member requests
  · exact CommandLine.startsAccepted_of_program (Program.admits_run world _ outside)

/-- A number of processors that is not a number passes the checks of a sandbox and of a group, and is asked
for at the service. -/
theorem validate_passes_nan :
    let config : SandboxConfig := { cpus := .nan false }
    let sandbox : Sandbox := { config, routeKey := [] }
    let run := (sandbox.start 1).run Rehearsal.world ⟨[], 0⟩
    ¬ config.cpus.IsPositive ∧ config.validate = .ok () ∧
      ({ sandbox := config } : GroupConfig).validate = .ok () ∧
      (Event.contacts run.events).map Contact.request = [sandbox.scheduleRequest] ∧
      sandbox.scheduleRequest.payload = .post sandbox.startBody ∧
      sandbox.startBody.member? (utf8 "cpus") = some (.double (.nan false)) := by
  intro config sandbox run
  refine ⟨?_, by rfl, by rfl, by rfl, rfl, rfl⟩
  simp [config, Binary64.IsPositive, Binary64.number?]

end SandboxClient
