import SandboxClient.Proofs.Program.Rehearsal
import SandboxClient.Proofs.Sandbox.Ending

/-!
# Running a command until it succeeds

A run that has to exit with zero fails if it throws an error, which it then hands on, or if it returns
another exit code or none, which becomes the failure of a command.  Under a policy such runs follow each
other until one succeeds or the policy allows no more, with the waits of the policy in between, and the
outcome of the last run is the outcome of all.
-/

namespace SandboxClient

namespace Sandbox

variable {sandbox : Sandbox} {command : Bytes} {options : RunOptions} {policy : Backoff}
  {patience : Nat} {events : List Event} {outcome? : Option (Except Error Observation)}

/-! ## What becomes of one run -/

/-- How a failure shows an exit code. -/
inductive TellsCode : Option Int32 → Bytes → Prop
  | code (code : Int32) : TellsCode (some code) (Text.integer code.toInt)
  | none : TellsCode none (utf8 "none")

/-- A failure gives the reason of a run, or its output if there is none. -/
inductive TellsReason (observation : Observation) : Bytes → Prop
  | reason (given : observation.failureReason ≠ []) : TellsReason observation observation.failureReason
  | output (missing : observation.failureReason = []) : TellsReason observation observation.output

/-- The failure of a command that did not exit with zero. -/
structure ExitFailure (sandbox : Sandbox) (command : Bytes) (observation : Observation)
    (failure : RemoteFailure) : Prop where
  kind_eq : failure.kind = .command
  code_eq : failure.code = 6000
  operation_eq : failure.operation = utf8 "arun"
  url_eq : failure.url = sandbox.url
  detail_eq : ∃ code reason, TellsCode observation.exitCode? code ∧ TellsReason observation reason ∧
    failure.detail = utf8 "command `" ++ command ++ utf8 "` exited with " ++ code ++ utf8 ": " ++ reason

/-- What the outcome of a run becomes where the command has to exit with zero. -/
inductive Judged (sandbox : Sandbox) (command : Bytes) :
    (run? outcome? : Option (Except Error Observation)) → Prop
  | endless : Judged sandbox command none none
  | succeeded {observation : Observation} (zero : observation.exitCode? = some 0) :
      Judged sandbox command (some (.ok observation)) (some (.ok observation))
  | thrown (error : Error) : Judged sandbox command (some (.error error)) (some (.error error))
  | exited {observation : Observation} {failure : RemoteFailure}
      (nonzero : observation.exitCode? ≠ some 0)
      (told : ExitFailure sandbox command observation failure) :
      Judged sandbox command (some (.ok observation)) (some (.error (.remote failure)))

theorem exists_exitFailure (sandbox : Sandbox) (command : Bytes) (observation : Observation) :
    ∃ failure, ExitFailure sandbox command observation failure ∧
      sandbox.commandFailure command observation = .remote failure := by
  refine ⟨_, ⟨rfl, rfl, rfl, rfl, _, _, ?_, ?_, rfl⟩, rfl⟩
  · cases observation.exitCode? with
    | none => exact .none
    | some code => exact .code code
  · cases reason_eq : observation.failureReason with
    | nil => exact .output reason_eq
    | cons byte reason =>
        have given : observation.failureReason ≠ [] := by simp [reason_eq]
        simpa [reason_eq] using TellsReason.reason given

theorem judged_of_runOrFail
    (admitted : (sandbox.runOrFail patience command options).outcome.Admits events outcome?) :
    ∃ run?, (sandbox.run patience command options).outcome.Admits events run? ∧
      Judged sandbox command run? outcome? := by
  rcases Attempt.admits_bind_iff.mp admitted with
    ⟨observation, first, second, rfl, ran, follows⟩ | ⟨error, failed, rfl⟩ | ⟨stopped, rfl⟩
  · split at follows
    next succeeded =>
      obtain ⟨rfl, rfl⟩ := Program.admits_done_iff.mp follows
      exact ⟨_, by simpa using ran, .succeeded (of_decide_eq_true succeeded)⟩
    next unsuccessful =>
      obtain ⟨rfl, rfl⟩ := Program.admits_done_iff.mp follows
      obtain ⟨failure, told, failure_eq⟩ := exists_exitFailure sandbox command observation
      rw [failure_eq]
      refine ⟨_, by simpa using ran, .exited (fun zero => unsuccessful ?_) told⟩
      exact decide_eq_true zero
  · exact ⟨_, failed, .thrown error⟩
  · exact ⟨_, stopped, .endless⟩

/-! ## Runs that follow each other -/

/-- Runs of a command with waits in between: all of them but the last fail, and the outcome is what the
last one becomes.  Apart from the runs and the pauses there are only log records. -/
inductive Repeated (sandbox : Sandbox) (command : Bytes) (options : RunOptions) (patience : Nat)
    (jitter : Bool) : (waits : List Int) → List Event → Option (Except Error Observation) → Prop
  | last {events notes : List Event} {run? outcome? : Option (Except Error Observation)}
      (ran : (sandbox.run patience command options).outcome.Admits events run?)
      (judged : Judged sandbox command run? outcome?) (noted : Event.visible notes = []) :
      Repeated sandbox command options patience jitter [] (events ++ notes) outcome?
  | again {wait : Int} {waits : List Int} {events pause later : List Event} {error : Error}
      {run? outcome? : Option (Except Error Observation)}
      (ran : (sandbox.run patience command options).outcome.Admits events run?)
      (judged : Judged sandbox command run? (some (.error error)))
      (paused : Retry.Pause jitter wait (Event.visible pause))
      (rest : Repeated sandbox command options patience jitter waits later outcome?) :
      Repeated sandbox command options patience jitter (wait :: waits) (events ++ pause ++ later) outcome?

theorem repeated_of_trials {jitter : Bool} {waits : List Int} {state : Unit}
    {tries : List (Retry.Try Observation Unit)} {result? : Option (Except Error Observation × Unit)}
    (trials : Retry.Trials (fun _ : Unit =>
        (sandbox.runOrFail patience command options).outcome.bind fun outcome => .done (outcome, ()))
      jitter waits state tries events result?) :
    Repeated sandbox command options patience jitter waits events (result?.map Prod.fst) ∧
      tries.length = waits.length + 1 := by
  have judged {own : List Event} {result? : Option (Except Error Observation × Unit)}
      (attempt : ((sandbox.runOrFail patience command options).outcome.bind fun outcome =>
        .done (outcome, ())).Admits own result?) :
      ∃ run?, (sandbox.run patience command options).outcome.Admits own run? ∧
        Judged sandbox command run? (result?.map Prod.fst) := by
    obtain ⟨outcome?, inner, rfl⟩ := Program.admits_of_map attempt
    obtain ⟨run?, ran, judged⟩ := judged_of_runOrFail inner
    exact ⟨run?, ran, by cases outcome? <;> exact judged⟩
  induction trials with
  | last attempt =>
      obtain ⟨run?, ran, judged⟩ := judged attempt
      exact ⟨by simpa using Repeated.last ran judged Event.visible_nil, rfl⟩
  | spent attempt noted =>
      obtain ⟨run?, ran, judged⟩ := judged attempt
      exact ⟨.last ran judged noted, rfl⟩
  | again attempt paused rest ih =>
      obtain ⟨run?, ran, judged⟩ := judged attempt
      exact ⟨.again ran judged paused ih.1, by simp [ih.2]⟩

theorem repeated_of_runWithRetry (valid : policy.validate = .ok ())
    (admitted :
      (sandbox.runWithRetry patience command options policy).outcome.Admits events outcome?) :
    ∃ waits, Repeated sandbox command options patience policy.jitter waits events outcome? ∧
      (waits.length : Int) < policy.maxAttempts ∧
      (∀ error, outcome? = some (.error error) → (waits.length : Int) + 1 = policy.maxAttempts) ∧
      (policy.jitter = false → ∃ schedule, policy.schedule = .ok schedule ∧ waits <+: schedule) := by
  have positive := Backoff.one_le_of_validate valid
  obtain ⟨result?, retried, rfl⟩ := Program.admits_of_map admitted
  rw [retry_of_validate valid] at retried
  obtain ⟨waits, tries, trials, bounded, exhausted, scheduled⟩ := Retry.trials_of_attempts retried
  obtain ⟨repeated, length_eq⟩ := repeated_of_trials trials
  refine ⟨waits, repeated, by omega, ?_, ?_⟩
  · intro error failed
    obtain ⟨⟨outcome, after⟩, rfl, rfl⟩ := Option.map_eq_some_iff.mp failed
    have all := exhausted error after rfl
    omega
  · intro plain
    refine ⟨_, Backoff.schedule_of_validate valid, ?_⟩
    rw [scheduled plain]
    exact List.take_prefix _ _

/-- Whatever the service and the clock do, a command is run until it first exits with zero or until it has
failed as often as the policy allows, and the last run decides the outcome.  Without jitter the waits are
the beginning of the schedule, one between any two runs. -/
theorem runWithRetry_ends_as_last_run (valid : policy.validate = .ok ()) {State : Type}
    (world : World State) (patience : Nat) (state : State) :
    let run := (sandbox.runWithRetry patience command options policy).outcome.run world state
    (∃ waits,
      Repeated sandbox command options patience policy.jitter waits run.events run.result? ∧
      (waits.length : Int) < policy.maxAttempts ∧
      (∀ error, run.result? = some (.error error) → (waits.length : Int) + 1 = policy.maxAttempts) ∧
      (policy.jitter = false → ∃ schedule, policy.schedule = .ok schedule ∧ waits <+: schedule)) ∧
    (Event.TimePasses run.events → options.waitTimeout.toNat < patience →
      run.result?.isSome = true) := by
  intro run
  have admitted : (sandbox.runWithRetry patience command options policy).outcome.Admits run.events
      run.result? := Program.admits_run world _ state
  refine ⟨repeated_of_runWithRetry valid admitted, fun passes enough => ?_⟩
  cases ended : run.result? with
  | some outcome => rfl
  | none =>
      rw [ended] at admitted
      exact (runWithRetry_endsInTime enough policy run.events passes admitted).elim

/-- The session cannot be created the first time, the command exits with seven the second time and with
zero the third time. -/
theorem runWithRetry_ends_as_last_run_rehearsed :
    let sandbox : Sandbox := { config := {}, routeKey := [], state := .alive, id := utf8 "sb-1" }
    let exited (code : Int) := Rehearsal.success [(utf8 "exit_code", .integer code)]
    let replies := [
      .error (.failure (utf8 "connection reset")),
      Rehearsal.success [], exited 7,
      Rehearsal.success [], exited 0]
    let run := (sandbox.runWithRetry 301 (utf8 "make") {}).outcome.run Rehearsal.world ⟨replies, 0⟩
    defaultBackoff.validate = .ok () ∧
      run.result? = some (.ok { exitCode? := some 0 }) ∧ run.state.clock = 15 * 1000000000 ∧
      ∃ waits, Repeated sandbox (utf8 "make") {} 301 false waits run.events run.result? ∧
        ∃ schedule, defaultBackoff.schedule = .ok schedule ∧ waits <+: schedule := by
  intro sandbox exited replies run
  have valid : defaultBackoff.validate = .ok () := by rfl
  obtain ⟨waits, repeated, _, _, scheduled⟩ :=
    (@runWithRetry_ends_as_last_run sandbox (utf8 "make") {} defaultBackoff valid _ Rehearsal.world 301
      ⟨replies, 0⟩).1
  exact ⟨valid, by rfl, by rfl, waits, repeated, scheduled rfl⟩

end Sandbox

end SandboxClient
