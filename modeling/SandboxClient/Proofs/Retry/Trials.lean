import SandboxClient.Proofs.Program.Rehearsal
import SandboxClient.Proofs.Program.Silence
import SandboxClient.Retry

/-!
# Trials

What a retry does with an operation of which nothing is known.  It is tried, and after each failure but
the last there is one pause before it is tried again from the state that it left behind.  The outcome of
the last trial is handed on as it is.  The loop counts the trials that are left and the schedule of a
policy counts the waits, so the two are compared along the recursion that they share.
-/

namespace SandboxClient

namespace Retry

variable {State Result : Type} {policy : Backoff} {logger? : Option Bytes}
  {operation : State → Program (Except Error Result × State)} {state : State} {events : List Event}
  {result? : Option (Except Error Result × State)}

/-- One trial: where it starts, what is done in it and how it ends, unless it never does. -/
structure Try (Result State : Type) where
  before : State
  events : List Event
  result? : Option (Except Error Result × State)

/-- Time that is let pass between two trials.  With jitter, the wait may be drawn first. -/
inductive Pause (jitter : Bool) (wait : Int) : List Event → Prop
  | fixed : Pause jitter wait [⟨.sleep wait, ()⟩]
  | drawn (bound : Float) (jittered : jitter = true) :
      Pause jitter wait [⟨.draw bound, wait⟩, ⟨.sleep wait, ()⟩]

/-- Trials of an operation with waits in between.  Apart from the trials and the pauses there are only log
records among the events, and the result is that of the last trial. -/
inductive Trials (operation : State → Program (Except Error Result × State)) (jitter : Bool) :
    (waits : List Int) → State → List (Try Result State) → List Event →
      Option (Except Error Result × State) → Prop
  | last {state : State} {events : List Event} {result? : Option (Except Error Result × State)}
      (attempt : (operation state).Admits events result?) :
      Trials operation jitter [] state [⟨state, events, result?⟩] events result?
  | spent {state after : State} {events notes : List Event} {error : Error}
      (attempt : (operation state).Admits events (some (.error error, after)))
      (noted : Event.visible notes = []) :
      Trials operation jitter [] state [⟨state, events, some (.error error, after)⟩] (events ++ notes)
        (some (.error error, after))
  | again {wait : Int} {waits : List Int} {state between : State} {tries : List (Try Result State)}
      {events pause later : List Event} {error : Error}
      {result? : Option (Except Error Result × State)}
      (attempt : (operation state).Admits events (some (.error error, between)))
      (paused : Pause jitter wait (Event.visible pause))
      (rest : Trials operation jitter waits between tries later result?) :
      Trials operation jitter (wait :: waits) state
        (⟨state, events, some (.error error, between)⟩ :: tries) (events ++ pause ++ later) result?

/-! ## Between two trials -/

theorem silent_note (level : Log.Level) (message : Bytes) :
    (note logger? level message).Silent fun _ => True := by
  cases logger? with
  | none => trivial
  | some logger => exact ⟨trivial, fun _ => trivial⟩

theorem visible_of_note {level : Log.Level} {message : Bytes} {answer? : Option Unit}
    (admitted : (note logger? level message).Admits events answer?) : Event.visible events = [] := by
  cases logger? with
  | none =>
      obtain ⟨rfl, -⟩ := Program.admits_done_iff.mp admitted
      rfl
  | some logger =>
      obtain ⟨_, rest, rfl, ended⟩ := Program.admits_act_iff.mp admitted
      obtain ⟨rfl, -⟩ := Program.admits_done_iff.mp ended
      rfl

theorem silent_wait (delay : Float) (jitter : Bool) :
    (Backoff.wait delay jitter).Silent fun _ => True := by
  rw [Backoff.wait]
  split
  · exact ⟨trivial, fun _ => trivial⟩
  · trivial

theorem Pause.contacts_eq_nil {jitter : Bool} {wait : Int}
    (paused : Pause jitter wait (Event.visible events)) : Event.contacts events = [] := by
  rw [← Event.contacts_visible]
  generalize Event.visible events = seen at paused
  cases paused with
  | fixed => rfl
  | drawn bound jittered => rfl

/-- A wait is told by the delay, except that jitter may have it drawn. -/
theorem events_of_wait {delay : Float} {jitter : Bool} {wait : Int}
    (admitted : (Backoff.wait delay jitter).Admits events (some wait)) :
    (events = [] ∧ wait = roundToInt64 delay) ∨
      (jitter = true ∧ events = [⟨.draw (2 * delay), wait⟩]) := by
  rw [Backoff.wait] at admitted
  split at admitted
  next drawn =>
    obtain ⟨answer, rest, rfl, ended⟩ := Program.admits_act_iff.mp admitted
    obtain ⟨rfl, answer_eq⟩ := Program.admits_done_iff.mp ended
    obtain rfl : wait = answer := Option.some_inj.mp answer_eq
    rw [Backoff.isDrawn, Bool.and_eq_true] at drawn
    exact .inr ⟨drawn.1, rfl⟩
  next =>
    obtain ⟨rfl, wait_eq⟩ := Program.admits_done_iff.mp admitted
    exact .inl ⟨rfl, Option.some_inj.mp wait_eq⟩

theorem pause_of_wait {delay : Float} {jitter : Bool} {wait : Int}
    (admitted : (Backoff.wait delay jitter).Admits events (some wait)) :
    Pause jitter wait (Event.visible events ++ [⟨.sleep wait, ()⟩]) := by
  rcases events_of_wait admitted with ⟨rfl, _⟩ | ⟨jittered, rfl⟩
  · exact .fixed
  · exact .drawn _ jittered

/-- Waits that are told by the delays from a current one on.  Each is the delay, or with jitter what was
drawn below twice the delay. -/
inductive Waited (policy : Backoff) (events : List Event) : Float → List Int → Prop
  | nil (delay : Float) : Waited policy events delay []
  | cons {delay : Float} {wait : Int} {waits : List Int}
      (source : wait = roundToInt64 delay ∨
        policy.jitter = true ∧ ⟨.draw (2 * delay), wait⟩ ∈ events)
      (later : Waited policy events (delay * policy.multiplier) waits) :
      Waited policy events delay (wait :: waits)

theorem Waited.mono {delay : Float} {waits : List Int} {more : List Event}
    (waited : Waited policy events delay waits) (subset : events ⊆ more) :
    Waited policy more delay waits := by
  induction waited with
  | nil delay => exact .nil delay
  | cons source later ih => exact .cons (source.imp_right (And.imp_right fun draw => subset draw)) ih

theorem source_of_wait {delay : Float} {jitter : Bool} {wait : Int}
    (admitted : (Backoff.wait delay jitter).Admits events (some wait)) :
    wait = roundToInt64 delay ∨ jitter = true ∧ ⟨.draw (2 * delay), wait⟩ ∈ events := by
  rcases events_of_wait admitted with ⟨_, wait_eq⟩ | ⟨jittered, rfl⟩
  · exact .inl wait_eq
  · exact .inr ⟨jittered, List.mem_singleton.mpr rfl⟩

/-! ## The loop -/

/-- Trials go on until the first success, and a failure means that all have been made.  The waits are told
by the delays, and without jitter they begin the list that the schedule is cut from. -/
theorem timed_trials_of_attempts {retries : Nat} {delay : Float}
    (admitted : (attempts policy logger? operation retries delay state).Admits events result?) :
    ∃ waits tries, Trials operation policy.jitter waits state tries events result? ∧
      tries.length ≤ retries + 1 ∧
      (∀ error after, result? = some (.error error, after) → tries.length = retries + 1) ∧
      (policy.jitter = false →
        waits = (Backoff.waits policy.multiplier retries delay).take (tries.length - 1)) ∧
      Waited policy events delay waits := by
  induction retries generalizing delay state events with
  | zero =>
      obtain ⟨⟨outcome, after⟩, first, second, rfl, attempt, follows⟩ | ⟨stops, rfl⟩ :=
        Program.admits_bind_iff.mp admitted
      · cases outcome with
        | ok result =>
            obtain ⟨rfl, rfl⟩ := Program.admits_done_iff.mp follows
            exact ⟨[], _, by simpa using .last attempt, by simp, by simp, by simp, .nil delay⟩
        | error error =>
            obtain ⟨_, third, fourth, rfl, noted, _, _, ended⟩ := (silent_note _ _).split follows
            obtain ⟨rfl, rfl⟩ := Program.admits_done_iff.mp ended
            have silent : Event.visible (third ++ []) = [] := by simpa using visible_of_note noted
            exact ⟨[], _, .spent attempt silent, by simp, by simp, by simp, .nil delay⟩
      · exact ⟨[], _, .last stops, by simp, by simp, by simp, .nil delay⟩
  | succ retries ih =>
      obtain ⟨⟨outcome, between⟩, first, second, rfl, attempt, follows⟩ | ⟨stops, rfl⟩ :=
        Program.admits_bind_iff.mp admitted
      · cases outcome with
        | ok result =>
            obtain ⟨rfl, rfl⟩ := Program.admits_done_iff.mp follows
            exact ⟨[], _, by simpa using .last attempt, by simp, by simp, by simp, .nil delay⟩
        | error error =>
            -- neither the draw nor the note can stall, so the next trial is made
            obtain ⟨wait, third, fourth, rfl, drawn, _, _, later⟩ := (silent_wait _ _).split follows
            obtain ⟨_, fifth, sixth, rfl, noted, _, _, sleeps⟩ := (silent_note _ _).split later
            obtain ⟨_, rest, rfl, further⟩ := Program.admits_act_iff.mp sleeps
            obtain ⟨waits, tries, trials, bounded, exhausted, scheduled, waited⟩ := ih further
            have paused := pause_of_wait drawn
            have source := source_of_wait drawn
            have pause : Pause policy.jitter wait
                (Event.visible (third ++ fifth ++ [⟨.sleep wait, ()⟩])) := by
              simpa [visible_of_note noted] using paused
            obtain ⟨count, length_eq⟩ : ∃ count, tries.length = count + 1 := by
              cases trials <;> exact ⟨_, rfl⟩
            refine ⟨wait :: waits, _, by simpa using Trials.again attempt pause trials, ?_, ?_, ?_, ?_⟩
            · simpa using bounded
            · intro error after result_eq
              simpa using exhausted error after result_eq
            · intro plain
              have wait_eq : wait = roundToInt64 delay := source.resolve_right (by simp [plain])
              simp [Backoff.waits, wait_eq, scheduled plain, length_eq]
            · refine .cons (source.imp_right (And.imp_right fun draw => ?_)) (waited.mono ?_)
              · simp [draw]
              · intro event later
                simp [later]
      · exact ⟨[], _, .last stops, by simp, by simp, by simp, .nil delay⟩

theorem trials_of_attempts {retries : Nat} {delay : Float}
    (admitted : (attempts policy logger? operation retries delay state).Admits events result?) :
    ∃ waits tries, Trials operation policy.jitter waits state tries events result? ∧
      tries.length ≤ retries + 1 ∧
      (∀ error after, result? = some (.error error, after) → tries.length = retries + 1) ∧
      (policy.jitter = false →
        waits = (Backoff.waits policy.multiplier retries delay).take (tries.length - 1)) := by
  obtain ⟨waits, tries, trials, bounded, exhausted, scheduled, _⟩ :=
    timed_trials_of_attempts admitted
  exact ⟨waits, tries, trials, bounded, exhausted, scheduled⟩

/-- Trials only go on for ever in a trial that does. -/
theorem Trials.isSome {jitter : Bool} {waits : List Int} {tries : List (Try Result State)}
    (trials : Trials operation jitter waits state tries events result?)
    (ends : ∀ before own, ¬ (operation before).Admits own none) : result?.isSome := by
  induction trials with
  | @last state events result? attempt =>
      cases result? with
      | none => exact absurd attempt (ends state events)
      | some result => rfl
  | spent attempt noted => rfl
  | again attempt paused rest ih => exact ih

end Retry

/-- A policy that is not valid is refused as an invalid parameter. -/
theorem Backoff.invalidParameter_of_validate {policy : Backoff} {error : Error}
    (refused : policy.validate = .error error) : ∃ reason, error = .invalidParameter reason := by
  rw [Backoff.validate] at refused
  split at refused
  · exact ⟨_, (Except.error.inj refused).symm⟩
  split at refused
  · exact ⟨_, (Except.error.inj refused).symm⟩
  split at refused
  · exact ⟨_, (Except.error.inj refused).symm⟩
  · cases refused

theorem Backoff.one_le_of_validate {policy : Backoff} (valid : policy.validate = .ok ()) :
    1 ≤ policy.maxAttempts := by
  by_cases few : policy.maxAttempts < 1
  · simp [Backoff.validate, few] at valid
  · omega

theorem Backoff.schedule_of_validate {policy : Backoff} (valid : policy.validate = .ok ()) :
    policy.schedule =
      .ok (waits policy.multiplier (policy.maxAttempts - 1).toNat policy.firstDelay) := by
  rw [Backoff.schedule, valid]
  rfl

section
variable {State Result Outside : Type}

theorem retry_of_validate {policy : Backoff} (valid : policy.validate = .ok ()) (logger? : Option Bytes)
    (operation : State → Program (Except Error Result × State)) (state : State) :
    retry policy logger? operation state =
      Retry.attempts policy logger? operation (policy.maxAttempts - 1).toNat policy.firstDelay state := by
  rw [retry, valid]

/-- Under a policy that is not valid an operation is never run.  Otherwise it is tried until its first
success or until it has failed as often as the policy allows, and the outcome of the last trial is handed
on.  Without jitter the waits are the beginning of the schedule, one between any two trials. -/
theorem retry_tries_until_success (policy : Backoff) (logger? : Option Bytes)
    (operation : State → Program (Except Error Result × State)) (state : State)
    (ends : ∀ before events, ¬ (operation before).Admits events none) (world : World Outside)
    (outside : Outside) :
    let run := (retry policy logger? operation state).run world outside
    (∀ error, policy.validate = .error error →
      (∃ reason, error = .invalidParameter reason) ∧
      ∀ other, retry policy logger? other state =
        (.done (.error error, state) : Program (Except Error Result × State))) ∧
    (policy.validate = .ok () → ∃ waits tries outcome after,
      run.result? = some (outcome, after) ∧
      Retry.Trials operation policy.jitter waits state tries run.events run.result? ∧
      (tries.length : Int) ≤ policy.maxAttempts ∧
      (∀ error, outcome = .error error → (tries.length : Int) = policy.maxAttempts) ∧
      (policy.jitter = false → ∃ schedule, policy.schedule = .ok schedule ∧
        waits = schedule.take (tries.length - 1))) := by
  intro run
  constructor
  · intro error refused
    refine ⟨Backoff.invalidParameter_of_validate refused, fun other => ?_⟩
    rw [retry, refused]
  · intro valid
    have positive := Backoff.one_le_of_validate valid
    have admitted : (retry policy logger? operation state).Admits run.events run.result? :=
      Program.admits_run world _ outside
    rw [retry_of_validate valid] at admitted
    obtain ⟨waits, tries, trials, bounded, exhausted, scheduled⟩ := Retry.trials_of_attempts admitted
    obtain ⟨⟨outcome, after⟩, ended⟩ := Option.isSome_iff_exists.mp (trials.isSome ends)
    refine ⟨waits, tries, outcome, after, ended, trials, by omega, ?_, ?_⟩
    · rintro error rfl
      have all := exhausted error after ended
      omega
    · intro plain
      exact ⟨_, Backoff.schedule_of_validate valid, scheduled plain⟩

/-- An operation that calls the service and counts its calls: two failures are followed by a success, after
waits of ten and of twenty milliseconds. -/
theorem retry_tries_until_success_rehearsed :
    let policy : Backoff := { maxAttempts := 4, initialDelay := 10, multiplier := 2 }
    let operation := fun calls : Nat => (Program.request ⟨utf8 "http://sb/ping", [], 1000, .get⟩).bind
      fun answer => .done (answer, calls + 1)
    let lost : Except Error Json := .error (.failure (utf8 "connection reset"))
    let run := (retry policy none operation 0).run Rehearsal.world ⟨[lost, lost, .ok .null], 0⟩
    (∀ before events, ¬ (operation before).Admits events none) ∧
      (run.result? = some (.ok .null, 3) ∧ policy.schedule = .ok [10, 20, 40]) ∧
      ∃ waits tries outcome after,
        run.result? = some (outcome, after) ∧
        Retry.Trials operation policy.jitter waits 0 tries run.events run.result? ∧
        (tries.length : Int) ≤ policy.maxAttempts ∧
        (∀ error, outcome = .error error → (tries.length : Int) = policy.maxAttempts) ∧
        (policy.jitter = false → ∃ schedule, policy.schedule = .ok schedule ∧
          waits = schedule.take (tries.length - 1)) := by
  intro policy operation lost run
  have ends : ∀ before events, ¬ (operation before).Admits events none := by
    intro before events admitted
    obtain ⟨_, rest, _, ended⟩ := Program.admits_act_iff.mp admitted
    cases (Program.admits_done_iff.mp ended).2
  have positive : (0 : Float) < 2 := by decide
  have valid : policy.validate = .ok () := by simp [Backoff.validate, policy, positive]
  have result_eq : run.result? = some (.ok .null, 3) := by
    simp only [run, retry_of_validate valid none operation 0]
    rfl
  have schedule_eq : policy.schedule = .ok [10, 20, 40] := by
    rw [Backoff.schedule_of_validate valid]
    exact congrArg Except.ok (by decide)
  exact ⟨ends, ⟨result_eq, schedule_eq⟩,
    (retry_tries_until_success policy none operation 0 ends Rehearsal.world _).2 valid⟩

end

end SandboxClient
