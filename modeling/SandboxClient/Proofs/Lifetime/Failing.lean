import SandboxClient.Proofs.Lifetime.Stopping
import SandboxClient.Proofs.Program.Rehearsal
import SandboxClient.Proofs.Sandbox.Ending
import SandboxClient.Proofs.Sandbox.Verdict

/-!
# Starts that fail

A start that fails leaves a handle that knows of no sandbox, also if it knew of one before: what needs a
sandbox is refused without a call, and there is nothing to stop.  The handle is stopped if it was the
service or the clock that let the start fail.  A configuration that is not valid is refused before the state
is entered, and its handle stays what it was when it was made.
-/

namespace SandboxClient

namespace Operation

variable {sandbox : Sandbox} {operation : Operation} {name : Bytes}

/-- What an operation says it needs a sandbox for, if it needs one. -/
def need? : Operation → Option Bytes
  | .start | .stop | .close => none
  | .status | .liveness => some (utf8 "get status")
  | .runScript _ | .speedUp _ _ _ => some (utf8 "get sandbox id")
  | .changeOwner _ _ _ | .changeMode _ _ _ => some (utf8 "execute command")
  | .userPresent _ | .createUser _ => some (utf8 "execute command")
  | .runWithRetry _ _ _ => some runOperation
  | operation => operation.guard?

/-- The arguments that are looked at before the handle pass. -/
def Passes : Operation → Prop
  | .changeOwner user paths _ => paths ≠ [] ∧ user ≠ []
  | .changeMode _ paths _ => paths ≠ []
  | .runWithRetry _ _ policy => policy.validate = .ok ()
  | _ => True

/-- A result that is a failure and leaves the handle as it is: without arguments that are refused, the
failure is that the handle was not started. -/
def Refuses (sandbox : Sandbox) (operation : Operation) (name : Bytes)
    (result : Except Error Unit × Sandbox) : Prop :=
  ∃ error, result = (.error error, sandbox) ∧ (operation.Passes → error = .notStarted name)

theorem silent_keeping {Result : Type} {attempt : Attempt Result} {expected : Error → Prop}
    (silent : attempt.outcome.Silent fun outcome => ∃ error, outcome = .error error ∧ expected error) :
    (keeping sandbox attempt).Silent fun result =>
      ∃ error, result = (.error error, sandbox) ∧ expected error := by
  refine silent.bind ?_
  rintro outcome ⟨error, rfl, expects⟩
  exact ⟨error, rfl, expects⟩

theorem silent_keeping_of_error {Result : Type} {attempt : Attempt Result}
    (fails : attempt.outcome = .done (.error (.notStarted name))) :
    (keeping sandbox attempt).Silent (Refuses sandbox operation name) := by
  refine silent_keeping ?_
  rw [fails]
  exact ⟨_, rfl, fun _ => rfl⟩

theorem silent_apply_of_not_isLive (idle : ¬ sandbox.IsLive) (change : Bytes) (arguments : List Bytes) :
    (Ownership.apply sandbox change arguments).outcome.Silent
      (· = .error (.notStarted (utf8 "execute command"))) := by
  rw [Ownership.apply, Attempt.outcome_lift_bind]
  refine ⟨trivial, fun _ => ?_⟩
  simp only [Program.pure_bind]
  rw [Attempt.outcome_bind_of_error (Sandbox.outcome_execute_of_not_isLive idle _)]
  rfl

theorem silent_perform_of_unidentified (needs : operation.need? = some name)
    (unidentified : sandbox.id = []) (patience : Nat) :
    (operation.perform patience sandbox).Silent (Refuses sandbox operation name) := by
  have idle : ¬ sandbox.IsLive := fun live => live.2 unidentified
  have unknown : sandbox.sandboxId = .error (.notStarted (utf8 "get sandbox id")) := by
    rw [Sandbox.sandboxId, Sandbox.requireId, unidentified]
    rfl
  have unseen : ∀ user, (Account.isPresent sandbox user).outcome =
      .done (.error (.notStarted (utf8 "execute command"))) := by
    intro user
    rw [Account.isPresent, Attempt.outcome_bind_of_error (Sandbox.outcome_execute_of_not_isLive idle _)]
  have guarded : operation.guard? = some name → (operation.perform patience sandbox).Silent
      (Refuses sandbox operation name) := by
    intro guarded
    rw [perform_of_not_isLive guarded idle]
    exact ⟨_, rfl, fun _ => rfl⟩
  cases operation with
  | start | stop | close => cases needs
  | status | liveness =>
      cases needs
      rw [perform_look_of_unidentified rfl unidentified]
      exact ⟨_, rfl, fun _ => rfl⟩
  | runWithRetry command options policy =>
      cases needs
      have fails : (sandbox.runOrFail patience command options).outcome =
          .done (.error (.notStarted runOperation)) := by
        rw [Sandbox.runOrFail, Attempt.outcome_bind_of_error (Sandbox.outcome_run_of_not_isLive idle)]
      exact silent_keeping (silent_retryAttempt fails policy _)
  | runScript script =>
      cases needs
      exact silent_keeping_of_error (by rw [Script.execute, unknown, Attempt.outcome_error_bind])
  | speedUp kind value timeout =>
      cases needs
      exact silent_keeping_of_error (by rw [Speedup.apply, unknown, Attempt.outcome_error_bind])
  | changeOwner user paths recursive =>
      cases needs
      refine silent_keeping ?_
      rw [Ownership.changeOwner]
      cases paths with
      | nil => exact ⟨_, rfl, fun passes => absurd rfl passes.1⟩
      | cons path paths =>
          cases user with
          | nil => exact ⟨_, rfl, fun passes => absurd rfl passes.2⟩
          | cons letter user =>
              refine (silent_apply_of_not_isLive idle _ _).mono ?_
              rintro outcome rfl
              exact ⟨_, rfl, fun _ => rfl⟩
  | changeMode mode paths recursive =>
      cases needs
      refine silent_keeping ?_
      rw [Ownership.changeMode]
      cases paths with
      | nil => exact ⟨_, rfl, fun passes => absurd rfl passes⟩
      | cons path paths =>
          refine (silent_apply_of_not_isLive idle _ _).mono ?_
          rintro outcome rfl
          exact ⟨_, rfl, fun _ => rfl⟩
  | userPresent user =>
      cases needs
      exact silent_keeping_of_error (unseen user)
  | createUser user =>
      cases needs
      exact silent_keeping_of_error (by rw [Account.create, Attempt.outcome_bind_of_error (unseen user)])
  | _ => exact guarded needs

end Operation

/-! ## Handles without a sandbox -/

/-- A handle that knows of no sandbox: whatever needs one is refused without a call, and stopping does
nothing. -/
structure Sandbox.IsVacant (handle : Sandbox) : Prop where
  id_eq : handle.id = []
  hostName_eq : handle.hostName = []
  hostAddress_eq : handle.hostAddress = []
  sandboxId_eq : handle.sandboxId = .error (.notStarted (utf8 "get sandbox id"))
  stop_eq : handle.stop = .done handle
  refuses : ∀ (operation : Operation) (name : Bytes) (patience : Nat), operation.need? = some name →
    (operation.perform patience handle).Silent (operation.Refuses handle name)

variable {first last handle : Sandbox} {operation : Operation} {patience : Nat} {events : List Event}
  {deeds : List Deed}

theorem Sandbox.isVacant (unidentified : handle.id = []) (hostName_eq : handle.hostName = [])
    (hostAddress_eq : handle.hostAddress = []) : handle.IsVacant where
  id_eq := unidentified
  hostName_eq := hostName_eq
  hostAddress_eq := hostAddress_eq
  sandboxId_eq := by
    rw [sandboxId, requireId, unidentified]
    rfl
  stop_eq := by
    rw [stop, unidentified]
    rfl
  refuses operation name patience needs :=
    Operation.silent_perform_of_unidentified needs unidentified patience

/-! ## Configurations that are not valid -/

theorem Operation.after_eq_of_invalid {outcome : Except Error Unit}
    (invalid : handle.config.validate ≠ .ok ()) (idle : handle.state ≠ .alive)
    (unidentified : handle.id = [])
    (admitted : (operation.perform patience handle).Admits events (some (outcome, last))) :
    last = handle := by
  have stopping : operation.stops = true → last = handle := by
    intro stops
    obtain ⟨_, stopped, result_eq⟩ := Operation.admits_stop_of_perform stops admitted
    rcases Sandbox.stop_cases stopped with ⟨_, _, rfl⟩ | ⟨⟨identified, _⟩, _⟩
    · cases result_eq
      rfl
    · exact absurd unidentified identified
  cases operation with
  | start =>
      rcases Sandbox.start_cases admitted with ⟨alive, _⟩ | ⟨_, _, rfl, _⟩ | ⟨⟨_, valid⟩, _⟩
      · exact absurd alive idle
      · rfl
      · exact absurd valid invalid
  | stop => exact stopping rfl
  | close => exact stopping rfl
  | _ => exact Operation.after_eq_of_isService rfl admitted

/-- Whatever is asked of a new handle, it stays new if its configuration is not valid. -/
theorem Lifetime.last_eq_of_invalid (life : Lifetime first deeds last)
    (invalid : first.config.validate ≠ .ok ()) (idle : first.state ≠ .alive)
    (unidentified : first.id = []) : last = first := by
  induction life with
  | idle => rfl
  | act admitted _ ih =>
      obtain rfl := Operation.after_eq_of_invalid invalid idle unidentified admitted
      exact ih invalid idle unidentified

/-! ## Starts that fail -/

/-- Whatever was asked of a handle before, a start of it that fails leaves no sandbox behind.  It leaves the
handle stopped, unless the configuration is not valid: then the handle is still as it was made. -/
theorem failed_start_leaves_vacant {State Other : Type} (config : SandboxConfig)
    (freshKey logger : Bytes) (world : World State) (patience : Nat) (operations : List Operation)
    (state : State) (count : Nat) (other : World Other) (rounds : Nat) (now : Other) (error : Error)
    (after : Sandbox) :
    let sandbox := Sandbox.create config freshKey logger
    let deeds := (Sandbox.serve world patience operations sandbox state).take count
    let handle := Deed.handleAfter sandbox deeds
    ((handle.start rounds).run other now).result? = some (.error error, after) →
      after.IsVacant ∧ (config.validate = .ok () → after.state = .stopped) ∧
        (config.validate ≠ .ok () → after = sandbox ∧ after.state = .uninitialized) := by
  intro sandbox deeds handle failed
  have life : Lifetime sandbox deeds handle :=
    lifetime_serve world patience operations sandbox state count
  have admitted := Program.admits_run other (handle.start rounds) now
  rw [failed] at admitted
  have config_eq : handle.config = config := life.config_eq
  have idle : sandbox.state ≠ .alive := by simp [sandbox, Sandbox.create]
  rcases Sandbox.start_cases admitted with ⟨_, impossible, _⟩ | ⟨invalid, _, rfl, _⟩ |
    ⟨⟨_, valid⟩, ⟨_, rfl⟩ | ⟨impossible, _⟩⟩
  · cases impossible
  · rw [config_eq] at invalid
    have unchanged : handle = sandbox := life.last_eq_of_invalid invalid idle rfl
    rw [unchanged]
    exact ⟨Sandbox.isVacant rfl rfl rfl, fun valid => absurd valid invalid, fun _ => ⟨rfl, rfl⟩⟩
  · rw [config_eq] at valid
    exact ⟨Sandbox.isVacant rfl rfl rfl, fun _ => rfl, fun invalid => absurd valid invalid⟩
  · cases impossible

/-- A start that succeeds, a stop, and another start that the service does not answer. -/
theorem failed_start_leaves_vacant_rehearsed :
    let config : SandboxConfig := { cpus := .finite false 1 0 }
    let sandbox := Sandbox.create config []
    let granted := Rehearsal.success [(utf8 "sandbox_id", .string (utf8 "sb-1")),
      (utf8 "host_name", .string (utf8 "node"))]
    let world := Rehearsal.timetable granted fun _ =>
      Rehearsal.success [(utf8 "is_alive", .boolean true)]
    let deeds := (Sandbox.serve world 1 [.start, .stop] sandbox 0).take 2
    let handle := Deed.handleAfter sandbox deeds
    let error := Error.failure (utf8 "no reply left")
    (config.validate = .ok () ∧ handle.id = utf8 "sb-1" ∧ handle.hostName = utf8 "node") ∧
      ∃ after, ((handle.start 1).run Rehearsal.world ⟨[], 0⟩).result? = some (.error error, after) ∧
        after.IsVacant ∧ after.state = .stopped := by
  intro config sandbox granted world deeds handle error
  have failed : ((handle.start 1).run Rehearsal.world ⟨[], 0⟩).result? =
      some (.error error, handle.abandoned) := by rfl
  obtain ⟨vacant, stopped, _⟩ := failed_start_leaves_vacant config [] sandboxLogger world 1
    [.start, .stop] 0 2 Rehearsal.world 1 ⟨[], 0⟩ error handle.abandoned failed
  exact ⟨⟨by rfl, by rfl, by rfl⟩, _, failed, vacant, stopped (by rfl)⟩

/-- A startup timeout of zero seconds lets a start fail, but the handle is not stopped afterwards. -/
theorem failed_start_leaves_uninitialized :
    let sandbox := Sandbox.create { startupTimeout := 0 } []
    let error := Error.invalidParameter (utf8 "startup_timeout must be > 0, got 0")
    ∃ after, ((sandbox.start 1).run Rehearsal.world ⟨[], 0⟩).result? = some (.error error, after) ∧
      after.state = .uninitialized ∧ after.state ≠ .stopped := by
  intro sandbox error
  have refused : sandbox.config.validate = .error error := by decide +kernel
  have failed : sandbox.start 1 = .done (.error error, sandbox) := by
    rw [Sandbox.start, if_neg (by decide), refused]
  exact ⟨sandbox, by rw [failed]; rfl, by rfl, by decide⟩

end SandboxClient
