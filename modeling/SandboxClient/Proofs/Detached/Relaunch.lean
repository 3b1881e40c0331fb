import SandboxClient.Proofs.Detached.Protocol
import SandboxClient.Proofs.Sandbox.Ending

/-!
# Launching a command again

A retry of a detached run launches the command once more after each run that failed.  The process of the
run before is then gone, if there was one at all, unless the wait for it ran out of time: that is reported
by an exit code as well, and the command is launched again next to a process that may still be running.
-/

namespace SandboxClient

namespace Detached

variable {sandbox : Sandbox} {logger command : Bytes} {options : RunOptions} {patience : Nat}
  {stages : Stages}

/-- What a run that came to an end knows of its process: there is none, or a probe told that it is gone, or
it was given up when the time was up and no probe had told so. -/
inductive Parted (sandbox : Sandbox) (options : RunOptions) (stages : Stages) : Prop
  | untold (unlaunched : processOf? sandbox stages.launch = none)
  | gone (seen : ∃ probe ∈ Event.contacts stages.wait, tellsGone sandbox probe.answer = true)
  | givenUp (spent : OutOfTime (options.waitTimeout * 1000) stages.wait)
      (unseen : ∀ probe ∈ Event.contacts stages.wait, tellsGone sandbox probe.answer = false)

theorem Course.parted {outcome : Except Error Observation}
    (course : Course sandbox command options patience stages (some outcome)) :
    Parted sandbox options stages := by
  generalize outcome_eq : some outcome = outcome? at course
  cases course with
  | unopened opened => exact .untold rfl
  | unlaunched opened failed => exact .untold (by simp [processOf?, launchCall, launchedProcess?, failed])
  | rejected opened reported nonzero =>
      exact .untold (by simp [processOf?, launchCall, launchedProcess?, reported, nonzero])
  | unnamed opened reported zero unmarked =>
      exact .untold (by simp [processOf?, launchCall, launchedProcess?, reported, unmarked])
  | endless opened told waited => cases outcome_eq
  | ended opened told waited closed =>
      rcases waited.of_ended with ⟨_, seen⟩ | ⟨_, spent, unseen⟩
      · exact .gone seen
      · exact .givenUp spent unseen

end Detached

namespace Sandbox

variable {sandbox : Sandbox} {command : Bytes} {options : RunOptions} {patience : Nat}
  {events : List Event}

theorem events_of_runOrFail_of_not_isLive (idle : ¬ sandbox.IsLive)
    {outcome? : Option (Except Error Observation)}
    (admitted : (sandbox.runOrFail patience command options).outcome.Admits events outcome?) :
    events = [] := by
  rw [runOrFail, Attempt.outcome_bind_of_error (outcome_run_of_not_isLive idle)] at admitted
  exact (Program.admits_done_iff.mp admitted).1

/-- An attempt of a live handle takes the course of a detached run, which ends if the attempt does. -/
theorem course_of_runOrFail (live : sandbox.IsLive) (detached : options.mode = .detached)
    {outcome? : Option (Except Error Observation)}
    (admitted : (sandbox.runOrFail patience command options).outcome.Admits events outcome?) :
    ∃ stages run?, Event.visible events = stages.events ∧
      Detached.Course sandbox command options patience stages run? ∧
      run?.isSome = outcome?.isSome := by
  have outcome_eq : (sandbox.run patience command options).outcome =
      (Detached.run patience sandbox sandbox.logger command options).outcome := by
    rw [run, live.requireAlive, Attempt.outcome_ok_bind, detached]
  obtain ⟨run?, ran, ended⟩ := run_of_runOrFail admitted
  rw [outcome_eq] at ran
  obtain ⟨stages, _, visible_eq, course⟩ := Detached.course_of_run live ran
  exact ⟨stages, run?, visible_eq, course, ended⟩

theorem exists_stages_of_failed (live : sandbox.IsLive) (detached : options.mode = .detached)
    {failed : List (List Event)} (tried : ∀ own ∈ failed, ∃ error,
      (sandbox.runOrFail patience command options).outcome.Admits own (some (.error error))) :
    ∃ attempts : List Detached.Stages,
      Event.visible failed.flatten = attempts.flatMap Detached.Stages.events ∧
      ∀ stages ∈ attempts, ∃ outcome,
        Detached.Course sandbox command options patience stages (some outcome) := by
  induction failed with
  | nil => exact ⟨[], rfl, by simp⟩
  | cons own failed ih =>
      obtain ⟨attempts, visible_eq, courses⟩ := ih fun own later => tried own (.tail _ later)
      obtain ⟨error, failure⟩ := tried own (.head _)
      obtain ⟨stages, run?, own_eq, course, ended⟩ := course_of_runOrFail live detached failure
      obtain ⟨outcome, rfl⟩ := Option.isSome_iff_exists.mp ended
      refine ⟨stages :: attempts, by simp [own_eq, visible_eq], ?_⟩
      intro other member
      rcases List.mem_cons.mp member with rfl | later
      · exact ⟨outcome, course⟩
      · exact courses other later

/-- A retry of a detached run goes through one attempt after the other.  Each keeps the protocol, so it
launches the command at most once, and when the next one begins it has parted from its process. -/
theorem runWithRetry_parts_from_process (detached : options.mode = .detached) (policy : Backoff)
    {State : Type} (world : World State) (patience : Nat) (state : State) :
    let run := (sandbox.runWithRetry patience command options policy).outcome.run world state
    ∃ attempts : List Detached.Stages,
      Event.Trimmed (attempts.flatMap Detached.Stages.events) run.events ∧
      (∀ stages ∈ attempts, ∃ ended, Detached.Protocol sandbox command options patience
        stages.timestamp ended stages.creation stages.launch (Event.contacts stages.wait)
        stages.reading) ∧
      ∀ stages ∈ attempts.dropLast, Detached.Parted sandbox options stages := by
  intro run
  have admitted : (sandbox.runWithRetry patience command options policy).outcome.Admits run.events
      run.result? := Program.admits_run world _ state
  rcases tries_of_retryAttempt admitted with ⟨silent, _⟩ | ⟨failed, last, trimmed, tried, final⟩
  · exact ⟨[], silent ▸ .refl [], by simp, by simp⟩
  by_cases live : sandbox.IsLive
  · obtain ⟨attempts, failed_eq, courses⟩ := exists_stages_of_failed live detached tried
    obtain ⟨stages, run?, last_eq, course, _⟩ := course_of_runOrFail live detached final
    refine ⟨attempts ++ [stages], ?_, ?_, ?_⟩
    · have visible_eq : Event.visible (failed.flatten ++ last) =
          (attempts ++ [stages]).flatMap Detached.Stages.events := by
        simp [failed_eq, last_eq]
      rw [← visible_eq]
      exact trimmed.visible
    · intro other member
      rcases List.mem_append.mp member with earlier | final
      · obtain ⟨outcome, course⟩ := courses other earlier
        exact ⟨_, course.protocol⟩
      · obtain rfl := List.mem_singleton.mp final
        exact ⟨_, course.protocol⟩
    · rw [List.dropLast_concat]
      intro other member
      obtain ⟨outcome, course⟩ := courses other member
      exact course.parted
  · -- every attempt is refused before its first call
    have nothing : failed.flatten ++ last = [] := by
      have unmade : ∀ own ∈ failed, own = [] := by
        intro own member
        obtain ⟨error, failure⟩ := tried own member
        exact events_of_runOrFail_of_not_isLive live failure
      simpa [events_of_runOrFail_of_not_isLive live final] using unmade
    rw [nothing] at trimmed
    exact ⟨[], trimmed, by simp, by simp⟩

/-- A process that is gone at the first probe but whose output cannot be read, and two more launches that
exit with seven. -/
theorem runWithRetry_parts_from_process_rehearsed :
    let sandbox : Sandbox := { config := {}, routeKey := [], state := .alive, id := utf8 "sb-1" }
    let options : RunOptions := { mode := .detached }
    let rejected := Rehearsal.success [(utf8 "exit_code", .integer 7)]
    let replies := [
      Rehearsal.success [],
      Rehearsal.success [(utf8 "exit_code", .integer 0),
        (utf8 "output", .string (utf8 "__ROCK_PID_START__42__ROCK_PID_END__"))],
      Rehearsal.success [(utf8 "exit_code", .integer 1)],
      .error (.failure (utf8 "connection reset")),
      Rehearsal.success [], rejected, Rehearsal.success [], rejected]
    let run := (sandbox.runWithRetry 3 (utf8 "make") options).outcome.run Rehearsal.world ⟨replies, 0⟩
    options.mode = .detached ∧ (Event.contacts run.events).length = 8 ∧
      ∃ attempts : List Detached.Stages,
        Event.Trimmed (attempts.flatMap Detached.Stages.events) run.events ∧
        (∀ stages ∈ attempts, ∃ ended, Detached.Protocol sandbox (utf8 "make") options 3
          stages.timestamp ended stages.creation stages.launch (Event.contacts stages.wait)
          stages.reading) ∧
        ∀ stages ∈ attempts.dropLast, Detached.Parted sandbox options stages :=
  ⟨rfl, by rfl, runWithRetry_parts_from_process rfl defaultBackoff Rehearsal.world 3 _⟩

/-- A process that is there at its only probe, when five seconds are the time it gets: the command is
launched again with nothing known of the process but that it was running. -/
theorem runWithRetry_launches_beside_process :
    let sandbox : Sandbox := { config := {}, routeKey := [], state := .alive, id := utf8 "sb-1" }
    let options : RunOptions := {
      mode := .detached, session? := some (utf8 "s"), outputFile? := some (utf8 "/tmp/out")
      waitTimeout := 5, waitInterval := 5 }
    let replies := [
      Rehearsal.success [(utf8 "exit_code", .integer 0),
        (utf8 "output", .string (utf8 "__ROCK_PID_START__42__ROCK_PID_END__"))],
      Rehearsal.success [(utf8 "exit_code", .integer 0)],
      Rehearsal.success [(utf8 "exit_code", .integer 0)]]
    let line := Detached.launchLine (utf8 "make") (utf8 "/tmp/out")
    let launch := sandbox.sessionRequest line (utf8 "s") (some Detached.launchSeconds)
    let run := (sandbox.runWithRetry 3 (utf8 "make") options).outcome.run Rehearsal.world ⟨replies, 0⟩
    (sandbox.IsLive ∧ options.mode = .detached ∧ defaultBackoff.validate = .ok ()) ∧
      ∃ first probe reading second later,
        Event.contacts run.events = first :: probe :: reading :: second :: later ∧
        (first.request = launch ∧ Detached.launchedProcess? sandbox first.answer = some 42) ∧
        (probe.request = sandbox.sessionRequest (utf8 "kill -0 " ++ Text.decimal 42) (utf8 "s")
            (some (Clock.millisToSeconds 5000)) ∧
          Detached.tellsGone sandbox probe.answer = false) ∧
        reading.request = sandbox.sessionRequest (utf8 "cat /tmp/out") (utf8 "s") none ∧
        second.request = launch := by
  have live : ({ config := {}, routeKey := [], state := .alive, id := utf8 "sb-1" } : Sandbox).IsLive :=
    ⟨rfl, by decide⟩
  exact ⟨⟨live, rfl, by rfl⟩, _, _, _, _, _, rfl, ⟨by rfl, by rfl⟩, ⟨by rfl, by rfl⟩, by rfl, by rfl⟩

end Sandbox

end SandboxClient
