import SandboxClient.Proofs.Detached.Protocol
import SandboxClient.Proofs.Sandbox.Ending
import SandboxClient.Proofs.Program.Rehearsal

/-!
# The outcome of a detached run

Three calls of a detached run have to go well: the one that creates the session, the one that launches the
command and the one that reads the output.  If one of them fails, its error is the error of the run, and
there is no other.  In particular a probe may fail, which only tells that the process is gone.  A run
without an error reports what became of the launch and of the process.
-/

namespace SandboxClient

namespace Detached

open Sandbox

variable {sandbox : Sandbox} {logger command : Bytes} {options : RunOptions} {patience : Nat}
  {stages : Stages} {outcome? : Option (Except Error Observation)}

/-! ## Errors -/

/-- A call that has to go well fails with an error. -/
def Stages.Raises (sandbox : Sandbox) (stages : Stages) (error : Error) : Prop :=
  (∃ call ∈ stages.creation, sandbox.creationOutcome call.answer = .error error) ∨
    ∃ call ∈ stages.launch ++ stages.reading, sandbox.sessionOutcome call.answer = .error error

theorem Opening.error_iff {timestamp : Int} {creation : List Contact} {opened : Except Error Unit}
    (opening : Opening sandbox options timestamp creation opened) (error : Error) :
    (∃ call ∈ creation, sandbox.creationOutcome call.answer = .error error) ↔
      opened = .error error := by
  cases opening with
  | given present => simp
  | created missing answer => simp

theorem Closing.error_iff {place : Place} {unread : Observation} {reading : List Contact}
    {outcome : Except Error Observation}
    (closing : Closing sandbox options place unread reading outcome) (error : Error) :
    (∃ call ∈ reading, sandbox.sessionOutcome call.answer = .error error) ↔
      outcome = .error error := by
  cases closing with
  | ignored ignores => simp
  | read reads answer => cases read_eq : sandbox.sessionOutcome answer <;> simp [read_eq, Except.map]

theorem exists_of_launchedProcess?_eq_some {answer : Except Error Json} {processId : Nat}
    (told : launchedProcess? sandbox answer = some processId) :
    ∃ launched, sandbox.sessionOutcome answer = .ok launched ∧ launched.exitCode? = some 0 ∧
      processId? launched.output = some processId := by
  rw [launchedProcess?] at told
  split at told
  next launched reported =>
    split at told
    next zero => exact ⟨launched, reported, zero, told⟩
    next => cases told
  next => cases told

theorem Course.error_iff (course : Course sandbox command options patience stages outcome?)
    (error : Error) : outcome? = some (.error error) ↔ stages.Raises sandbox error := by
  cases course with
  | unopened opened =>
      have refused := opened.error_iff error
      simpa [Stages.Raises] using refused.symm
  | unlaunched opened failed =>
      have accepted := opened.error_iff error
      simp [Stages.Raises, launchCall, accepted, failed]
  | rejected opened reported nonzero =>
      have accepted := opened.error_iff error
      simp [Stages.Raises, launchCall, accepted, reported]
  | unnamed opened reported zero unmarked =>
      have accepted := opened.error_iff error
      simp [Stages.Raises, launchCall, accepted, reported]
  | endless opened told waited =>
      have accepted := opened.error_iff error
      obtain ⟨launched, reported, _⟩ := exists_of_launchedProcess?_eq_some told
      simp [Stages.Raises, launchCall, accepted, reported]
  | ended opened told waited closed =>
      have accepted := opened.error_iff error
      have read := closed.error_iff error
      obtain ⟨launched, reported, _⟩ := exists_of_launchedProcess?_eq_some told
      simp [Stages.Raises, launchCall, accepted, reported, read]

/-! ## Reports -/

/-- What the result of a run says about the process that it waited for. -/
structure Report (sandbox : Sandbox) (options : RunOptions) (stages : Stages) (result : Observation) :
    Prop where
  /-- A probe that tells that the process is gone makes the run a success. -/
  of_gone : (∃ probe ∈ Event.contacts stages.wait, tellsGone sandbox probe.answer = true) →
    result.exitCode? = some 0 ∧ result.failureReason = []
  /-- If there is none, the time ran out, and the reason names how long the wait was. -/
  of_unseen : (∀ probe ∈ Event.contacts stages.wait, tellsGone sandbox probe.answer = false) →
    OutOfTime (options.waitTimeout * 1000) stages.wait ∧ result.exitCode? = some 1 ∧
      utf8 "Process did not complete successfully" <+: result.failureReason ∧
      Text.integer options.waitTimeout <:+: result.failureReason
  /-- A run that ignores the output of the process names the file it went to instead. -/
  of_ignored : options.ignoreOutput = true → fileOf options stages.timestamp <:+: result.output
  of_read : options.ignoreOutput = false → ∃ call read, stages.reading = [call] ∧
    sandbox.sessionOutcome call.answer = .ok read ∧ result.output = read.output

theorem completion_false_failureReason (waitTimeout : Int) :
    utf8 "Process did not complete successfully" <+: (completion false waitTimeout).failureReason ∧
      Text.integer waitTimeout <:+: (completion false waitTimeout).failureReason := by
  constructor
  · refine ⟨utf8 ": not finished within " ++ Text.integer waitTimeout ++ utf8 "s", ?_⟩
    simp [completion, notCompleted]
  · exact ⟨notCompleted ++ utf8 ": not finished within ", utf8 "s", rfl⟩

/-- A result gets the output that was read, or a notice that names the file, and keeps the rest. -/
theorem Closing.of_ok {place : Place} {unread result : Observation} {reading : List Contact}
    (closing : Closing sandbox options place unread reading (.ok result)) :
    result = { unread with output := result.output } ∧
      (options.ignoreOutput = true → place.file <:+: result.output) ∧
      (options.ignoreOutput = false → ∃ call read, reading = [call] ∧
        sandbox.sessionOutcome call.answer = .ok read ∧ result.output = read.output) := by
  generalize outcome_eq : Except.ok result = outcome at closing
  cases closing with
  | ignored ignores =>
      cases outcome_eq
      exact ⟨rfl, fun _ => (List.suffix_append _ _).isInfix, by simp [ignores]⟩
  | read reads answer =>
      cases read_eq : sandbox.sessionOutcome answer with
      | error error =>
          rw [read_eq] at outcome_eq
          cases outcome_eq
      | ok read =>
          rw [read_eq] at outcome_eq
          cases outcome_eq
          exact ⟨rfl, by simp [reads], fun _ => ⟨_, read, rfl, read_eq, rfl⟩⟩

theorem report_of_wait {task : Task} {completed : Bool} {result : Observation}
    (waited : Wait sandbox task patience stages.wait (some completed))
    (budget_eq : task.budget = options.waitTimeout * 1000)
    (closed : Closing sandbox options (placeOf options stages.timestamp)
      (completion completed options.waitTimeout) stages.reading (.ok result)) :
    Report sandbox options stages result := by
  obtain ⟨kept, notice, read⟩ := closed.of_ok
  have reported : (completed = true → result.exitCode? = some 0 ∧ result.failureReason = []) ∧
      (completed = false → result.exitCode? = some 1 ∧
        result.failureReason = (completion false options.waitTimeout).failureReason) := by
    rw [kept]
    cases completed <;> simp [completion]
  refine ⟨?_, ?_, notice, read⟩
  -- a wait ends with a probe that tells that the process is gone, or else without any
  · rintro ⟨probe, member, gone⟩
    rcases waited.of_ended with ⟨rfl, _⟩ | ⟨_, _, unseen⟩
    · exact reported.1 rfl
    · simp [unseen probe member] at gone
  · intro unseen
    rcases waited.of_ended with ⟨_, probe, member, gone⟩ | ⟨rfl, spent, _⟩
    · simp [unseen probe member] at gone
    · obtain ⟨code, reason_eq⟩ := reported.2 rfl
      obtain ⟨starts, names⟩ := completion_false_failureReason options.waitTimeout
      rw [reason_eq]
      exact ⟨budget_eq ▸ spent, code, starts, names⟩

/-! ## The whole outcome -/

/-- How the result of a run follows from what the launch reported. -/
inductive Returned (sandbox : Sandbox) (options : RunOptions) (stages : Stages)
    (launched : Observation) : (result : Observation) → Prop
  | rejected (nonzero : launched.exitCode? ≠ some 0) :
      Returned sandbox options stages launched launched
  | unnamed {result : Observation} (zero : launched.exitCode? = some 0)
      (unmarked : processId? launched.output = none) (code : result.exitCode? = some 1)
      (reason : result.failureReason = utf8 "PID extraction failed") :
      Returned sandbox options stages launched result
  | reported {result : Observation} {processId : Nat} (zero : launched.exitCode? = some 0)
      (marked : processId? launched.output = some processId)
      (report : Report sandbox options stages result) :
      Returned sandbox options stages launched result

/-- How the outcome of a run follows from the answers to its calls. -/
structure Ending (sandbox : Sandbox) (options : RunOptions) (stages : Stages)
    (outcome? : Option (Except Error Observation)) : Prop where
  error_iff : ∀ error, outcome? = some (.error error) ↔ stages.Raises sandbox error
  returned : ∀ result, outcome? = some (.ok result) → ∃ call launched, stages.launch = [call] ∧
    sandbox.sessionOutcome call.answer = .ok launched ∧
    Returned sandbox options stages launched result

theorem Course.returned {result : Observation}
    (course : Course sandbox command options patience stages (some (.ok result))) :
    ∃ call launched, stages.launch = [call] ∧ sandbox.sessionOutcome call.answer = .ok launched ∧
      Returned sandbox options stages launched result := by
  generalize outcome_eq : some (Except.ok result) = outcome? at course
  cases course with
  | unopened opened => cases outcome_eq
  | unlaunched opened failed => cases outcome_eq
  | rejected opened reported nonzero =>
      cases outcome_eq
      exact ⟨_, _, rfl, reported, .rejected nonzero⟩
  | unnamed opened reported zero unmarked =>
      cases outcome_eq
      exact ⟨_, _, rfl, reported, .unnamed zero unmarked rfl rfl⟩
  | endless opened told waited => cases outcome_eq
  | ended opened told waited closed =>
      cases outcome_eq
      obtain ⟨launched, reported, zero, marked⟩ := exists_of_launchedProcess?_eq_some told
      refine ⟨_, launched, rfl, reported, .reported zero marked ?_⟩
      exact report_of_wait waited rfl closed

theorem Course.ending (course : Course sandbox command options patience stages outcome?) :
    Ending sandbox options stages outcome? where
  error_iff := course.error_iff
  returned := by
    rintro result rfl
    exact course.returned

theorem Course.probe_madeWithin (course : Course sandbox command options patience stages outcome?) :
    ∀ probe ∈ Event.contacts stages.wait,
      MadeWithin (options.waitTimeout * 1000) stages.wait probe := by
  cases course with
  | endless opened told waited => exact fun probe member => (waited.probes probe member).2
  | ended opened told waited closed => exact fun probe member => (waited.probes probe member).2
  | _ => simp

/-- Whatever the service and the clock do, a detached run of a live handle makes the calls of the protocol
and ends as their answers say.  While time passes it does come to an end. -/
theorem run_ends_as_answered (live : sandbox.IsLive) {State : Type} (world : World State)
    (patience : Nat) (logger command : Bytes) (options : RunOptions) (state : State) :
    let run := (Detached.run patience sandbox logger command options).outcome.run world state
    (∃ stages : Stages, Event.visible run.events = stages.events ∧
      Protocol sandbox command options patience stages.timestamp run.result?.isSome stages.creation
        stages.launch (Event.contacts stages.wait) stages.reading ∧
      (∀ probe ∈ Event.contacts stages.wait,
        MadeWithin (options.waitTimeout * 1000) stages.wait probe) ∧
      Ending sandbox options stages run.result?) ∧
    (Event.TimePasses run.events → options.waitTimeout.toNat < patience →
      run.result?.isSome = true) := by
  intro run
  have admitted : (Detached.run patience sandbox logger command options).outcome.Admits run.events
      run.result? := Program.admits_run world _ state
  constructor
  · obtain ⟨stages, _, visible_eq, course⟩ := course_of_run live admitted
    exact ⟨stages, visible_eq, course.protocol, course.probe_madeWithin, course.ending⟩
  · intro passes enough
    cases ended : run.result? with
    | some result => rfl
    | none =>
        rw [ended] at admitted
        exact (run_endsInTime live enough run.events passes admitted).elim

/-- A process that is there at the first probe, and a second probe that fails. -/
theorem run_ends_as_answered_rehearsed :
    let sandbox : Sandbox := { config := {}, routeKey := [], state := .alive, id := utf8 "sb-1" }
    let options : RunOptions := { mode := .detached, waitTimeout := 60, waitInterval := 5 }
    let replies := [
      Rehearsal.success [],
      Rehearsal.success [(utf8 "exit_code", .integer 0),
        (utf8 "output", .string (utf8 "__ROCK_PID_START__42__ROCK_PID_END__"))],
      Rehearsal.success [(utf8 "exit_code", .integer 0)],
      .error (.failure (utf8 "connection reset")),
      Rehearsal.success [(utf8 "exit_code", .integer 2), (utf8 "output", .string (utf8 "done"))]]
    let run := (Detached.run 61 sandbox [] (utf8 "make") options).outcome.run Rehearsal.world ⟨replies, 0⟩
    sandbox.IsLive ∧ Event.TimePasses run.events ∧ run.result?.isSome = true ∧
      run.result? = some (.ok { output := utf8 "done", exitCode? := some 0 }) ∧
      ∃ stages : Stages, Event.visible run.events = stages.events ∧
        Protocol sandbox (utf8 "make") options 61 stages.timestamp run.result?.isSome stages.creation
          stages.launch (Event.contacts stages.wait) stages.reading ∧
        (∀ probe ∈ Event.contacts stages.wait,
          MadeWithin (options.waitTimeout * 1000) stages.wait probe) ∧
        Ending sandbox options stages run.result? := by
  intro sandbox options replies run
  have live : sandbox.IsLive := ⟨rfl, by decide⟩
  have passes : Event.TimePasses run.events := by
    have readings : (0 : Int) ≤ 0 ∧ (0 : Int) ≤ 0 ∧ (5000000000 : Int) ≤ 5000000000 ∧ True := by decide
    exact ⟨0, readings⟩
  obtain ⟨account, ends⟩ :=
    run_ends_as_answered live Rehearsal.world 61 [] (utf8 "make") options ⟨replies, 0⟩
  exact ⟨live, passes, ends passes (by decide), by rfl, account⟩

end Detached

end SandboxClient
