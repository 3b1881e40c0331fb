import SandboxClient.Proofs.Detached.Course
import SandboxClient.Proofs.Retry.Attempts
import SandboxClient.Proofs.Sandbox.Lifecycle
import SandboxClient.Sandbox.Run

/-!
# Operations that come to an end

Starting a sandbox and waiting for a detached process are the only operations that look again and
again.  While time passes they give up after their budgets, so with patience enough they and everything
built on them come to an end, whatever the service answers.
-/

namespace SandboxClient

variable {sandbox : Sandbox} {logger command : Bytes} {options : RunOptions} {patience : Nat}

namespace Sandbox

theorem start_endsInTime (enough : sandbox.config.startupTimeout.toNat < patience) :
    (sandbox.start patience).EndsInTime := by
  intro events passes admitted
  by_cases alive : sandbox.state = .alive
  · cases (start_of_alive alive admitted).2
  · rw [start, if_neg alive] at admitted
    split at admitted
    · cases (Program.admits_done_iff.mp admitted).2
    · have course := startCourse_of_launch admitted
      have passes := passes.visible
      generalize Event.visible events = visible at course passes
      generalize result_eq : none = result? at course
      cases course with
      | refused answer error refuses => cases result_eq
      | granted answer reading grants watched =>
          obtain rfl := Option.map_eq_none_iff.mp result_eq.symm
          have pauses : 1000 ≤ statusInterval := by decide
          exact watched.not_stalled (passes.from_reading [_, _]) rfl pauses enough

theorem runInSession_endsInTime (live : sandbox.IsLive) (command session : Bytes)
    (seconds? : Option Float) :
    (sandbox.runInSession command session seconds?).outcome.EndsInTime := by
  rw [outcome_runInSession live]
  exact Program.endsInTime_act fun _ => Program.endsInTime_act fun _ => Program.endsInTime_done _

theorem createSession_endsInTime (live : sandbox.IsLive) (request : SessionRequest) :
    (sandbox.createSession request).outcome.EndsInTime := by
  intro events _ admitted
  obtain ⟨_, _, _, impossible, _⟩ := visible_createSession live admitted
  cases impossible

end Sandbox

namespace Detached

/-- While time passes, a wait that pauses for a second at least ends if its patience exceeds its budget
in seconds. -/
theorem Wait.not_endless {task : Task} {seconds : Int} {wait : List Event}
    (waited : Wait sandbox task patience wait none) (passes : Event.TimePasses wait)
    (budget_eq : task.budget = seconds * 1000) (pauses : 1000 ≤ task.interval)
    (enough : seconds.toNat < patience) : False := by
  generalize completed_eq : none = completed? at waited
  cases waited with
  | @polled start looks rounds after outcome? looked clockOnly =>
      obtain rfl := Option.map_eq_none_iff.mp completed_eq.symm
      have within : rounds.Sublist (rounds ++ after) := List.sublist_append_left rounds after
      have passes : Event.TimePassesFrom start rounds := (passes.from_reading []).sublist within
      exact looked.not_stalled passes budget_eq pauses enough

theorem Course.not_endless {stages : Stages}
    (course : Course sandbox command options patience stages none)
    (passes : Event.TimePasses stages.events) (enough : options.waitTimeout.toNat < patience) :
    False := by
  have passes := passes.sublist stages.wait_sublist
  generalize outcome_eq : none = outcome? at course
  cases course with
  | @endless timestamp creation answer processId wait opened told waited =>
      have pauses : 1000 ≤ (taskOf options (placeOf options timestamp) processId).interval := by
        show 1000 ≤ max leastInterval options.waitInterval * 1000
        have least : leastInterval = 5 := rfl
        omega
      exact waited.not_endless passes rfl pauses enough
  | _ => cases outcome_eq

theorem run_endsInTime (live : sandbox.IsLive) (enough : options.waitTimeout.toNat < patience) :
    (run patience sandbox logger command options).outcome.EndsInTime := by
  intro events passes admitted
  obtain ⟨stages, _, visible_eq, course⟩ := course_of_run live admitted
  exact course.not_endless (visible_eq ▸ passes.visible) enough

end Detached

namespace Sandbox

theorem ensureSession_endsInTime (live : sandbox.IsLive) (session : Bytes) :
    (sandbox.ensureSession session).outcome.EndsInTime := by
  refine Attempt.endsInTime_bind ?_ fun outcome => ?_
  · exact (createSession_endsInTime live _).bind fun _ _ _ => Program.endsInTime_done _
  · cases outcome with
    | ok response => exact Program.endsInTime_done _
    | error error =>
        simp only
        split
        · exact Program.endsInTime_act fun _ => Program.endsInTime_done _
        · exact Program.endsInTime_done _

theorem outcome_run_of_not_isLive (idle : ¬ sandbox.IsLive) :
    (sandbox.run patience command options).outcome = .done (.error (.notStarted runOperation)) := by
  rw [run, requireAlive_of_not_isLive idle, Attempt.outcome_error_bind]

/-- A run needs patience for its wait timeout only, and none at all unless it is detached. -/
theorem run_endsInTime (enough : options.waitTimeout.toNat < patience) :
    (sandbox.run patience command options).outcome.EndsInTime := by
  by_cases live : sandbox.IsLive
  · rw [run, live.requireAlive, Attempt.outcome_ok_bind]
    cases options.mode with
    | detached => exact Detached.run_endsInTime live enough
    | normal =>
        refine Attempt.endsInTime_bind (ensureSession_endsInTime live _) fun _ => ?_
        exact runInSession_endsInTime live _ _ _
  · rw [outcome_run_of_not_isLive live]
    exact Program.endsInTime_done _

/-- A run that has to exit with zero causes the events of a run and ends if that ends. -/
theorem run_of_runOrFail {events : List Event} {outcome? : Option (Except Error Observation)}
    (admitted : (sandbox.runOrFail patience command options).outcome.Admits events outcome?) :
    ∃ run?, (sandbox.run patience command options).outcome.Admits events run? ∧
      run?.isSome = outcome?.isSome := by
  rcases Attempt.admits_bind_iff.mp admitted with
    ⟨observation, first, second, rfl, ran, follows⟩ | ⟨error, failed, rfl⟩ | ⟨stopped, rfl⟩
  · refine ⟨some (.ok observation), ?_⟩
    split at follows
    · obtain ⟨rfl, rfl⟩ := Program.admits_done_iff.mp follows
      exact ⟨by simpa using ran, rfl⟩
    · obtain ⟨rfl, rfl⟩ := Program.admits_done_iff.mp follows
      exact ⟨by simpa using ran, rfl⟩
  · exact ⟨_, failed, rfl⟩
  · exact ⟨_, stopped, rfl⟩

theorem runWithRetry_endsInTime (enough : options.waitTimeout.toNat < patience) (policy : Backoff) :
    (sandbox.runWithRetry patience command options policy).outcome.EndsInTime := by
  intro events passes admitted
  rcases tries_of_retryAttempt admitted with ⟨_, _, impossible⟩ | ⟨failed, last, trimmed, _, tried⟩
  · cases impossible
  have within : last.Sublist events :=
    (List.sublist_append_right failed.flatten last).trans trimmed.sublist
  obtain ⟨run?, ran, unended⟩ := run_of_runOrFail tried
  obtain rfl : run? = none := by simpa using unended
  exact run_endsInTime enough last (passes.sublist within) ran

end Sandbox

end SandboxClient
