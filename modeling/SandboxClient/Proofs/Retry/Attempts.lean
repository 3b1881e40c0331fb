import SandboxClient.Proofs.Retry.Trials

/-!
# Attempts

What a retry does: it makes attempts one after the other, each from where the one before left off, until
one succeeds or the limit of the policy is reached.  Between two attempts there is nothing but log
records, a draw and a pause, so a retry does no more than its attempts where quiet actions are allowed.
-/

namespace SandboxClient

namespace Retry

variable {State Result : Type} {policy : Backoff} {logger? : Option Bytes}
  {operation : State → Program (Except Error Result × State)} {state : State} {events : List Event}
  {result? : Option (Except Error Result × State)}

/-- A number of attempts from a state on, their events with what is done in between, and the result of
the last one, which is missing if it never ends. -/
inductive Course (operation : State → Program (Except Error Result × State)) :
    (count : Nat) → State → List Event → Option (Except Error Result × State) → Prop
  | succeeded {state after : State} {events : List Event} {result : Result}
      (attempt : (operation state).Admits events (some (.ok result, after))) :
      Course operation 1 state events (some (.ok result, after))
  | failed {state after : State} {events notes : List Event} {error : Error}
      (attempt : (operation state).Admits events (some (.error error, after)))
      (silent : Event.contacts notes = []) :
      Course operation 1 state (events ++ notes) (some (.error error, after))
  | endless {state : State} {events : List Event}
      (attempt : (operation state).Admits events none) : Course operation 1 state events none
  | again {count : Nat} {state between : State} {events pause later : List Event} {error : Error}
      {result? : Option (Except Error Result × State)}
      (attempt : (operation state).Admits events (some (.error error, between)))
      (silent : Event.contacts pause = [])
      (rest : Course operation count between later result?) :
      Course operation (count + 1) state (events ++ pause ++ later) result?

theorem Trials.course {jitter : Bool} {waits : List Int} {tries : List (Try Result State)}
    (trials : Trials operation jitter waits state tries events result?) :
    Course operation tries.length state events result? := by
  induction trials with
  | @last state events result? attempt =>
      match result? with
      | none => exact .endless attempt
      | some (.ok result, after) => exact .succeeded attempt
      | some (.error error, after) => simpa using Course.failed attempt Event.contacts_nil
  | @spent state after events notes error attempt noted =>
      exact .failed attempt (Event.contacts_eq_nil_of_visible noted)
  | again attempt paused rest ih => exact .again attempt paused.contacts_eq_nil ih

/-- Attempts go on until the first success, and a failure means that all have been made. -/
theorem course_of_attempts {retries : Nat} {delay : Float}
    (admitted : (attempts policy logger? operation retries delay state).Admits events result?) :
    ∃ count, count ≤ retries + 1 ∧ Course operation count state events result? ∧
      ∀ error after, result? = some (.error error, after) → count = retries + 1 := by
  obtain ⟨waits, tries, trials, bounded, exhausted, _⟩ := trials_of_attempts admitted
  exact ⟨tries.length, bounded, trials.course, exhausted⟩

/-- Under a valid policy a retry makes at least one attempt and no more than the policy allows. -/
theorem course_of_retry (valid : policy.validate = .ok ())
    (admitted : (retry policy logger? operation state).Admits events result?) :
    ∃ count : Nat, count ≤ policy.maxAttempts ∧ Course operation count state events result? ∧
      ∀ error after, result? = some (.error error, after) → count = policy.maxAttempts := by
  have positive := Backoff.one_le_of_validate valid
  rw [retry_of_validate valid] at admitted
  obtain ⟨count, bounded, course, exhausted⟩ := course_of_attempts admitted
  refine ⟨count, by omega, course, ?_⟩
  intro error after result_eq
  have all := exhausted error after result_eq
  omega

namespace Course

/-- The tries that a course is made of, each by its events: all but the last failed, and the last one has
the result of the course. -/
theorem exists_tries {count : Nat} (course : Course operation count state events result?) :
    ∃ (failed : List (List Event)) (last : List Event),
      Event.Trimmed (failed.flatten ++ last) events ∧
      (∀ own ∈ failed, ∃ before error after,
        (operation before).Admits own (some (.error error, after))) ∧
      ∃ before, (operation before).Admits last result? := by
  induction course with
  | @succeeded state after events result attempt =>
      exact ⟨[], events, .refl events, by simp, state, attempt⟩
  | @failed state after events notes error attempt silent =>
      exact ⟨[], events, (Event.Trimmed.refl events).before silent, by simp, state, attempt⟩
  | @endless state events attempt => exact ⟨[], events, .refl events, by simp, state, attempt⟩
  | @again count state between events pause later error result? attempt silent rest ih =>
      obtain ⟨failed, last, trimmed, unsuccessful, tried⟩ := ih
      refine ⟨events :: failed, last, ?_, ?_, tried⟩
      · have own := (Event.Trimmed.refl events).append (trimmed.after silent)
        simpa using own
      · intro own member
        rcases List.mem_cons.mp member with rfl | later
        · exact ⟨state, error, between, attempt⟩
        · exact unsuccessful own later

theorem attempt_of_ok {count : Nat} {result : Result} {after : State}
    (course : Course operation count state events (some (.ok result, after))) :
    ∃ before own, (operation before).Admits own (some (.ok result, after)) := by
  obtain ⟨_, own, _, _, before, attempt⟩ := course.exists_tries
  exact ⟨before, own, attempt⟩

end Course

/-! ## What a retry may do -/

variable {permitted : Request → Prop}

theorem confined_attempts
    (tries : ∀ state, (operation state).Confined (Action.Within permitted)) (retries : Nat)
    (delay : Float) (state : State) :
    (attempts policy logger? operation retries delay state).Confined (Action.Within permitted) := by
  have noted : ∀ level message, (note logger? level message).Confined (Action.Within permitted) := by
    intro level message
    cases logger? with
    | none => trivial
    | some logger => exact ⟨trivial, fun _ => trivial⟩
  have waited : ∀ delay, (Backoff.wait delay policy.jitter).Confined (Action.Within permitted) := by
    intro delay
    rw [Backoff.wait]
    split
    · exact ⟨trivial, fun _ => trivial⟩
    · trivial
  induction retries generalizing delay state with
  | zero =>
      refine (tries state).bind ?_
      rintro ⟨outcome, after⟩
      cases outcome with
      | ok result => trivial
      | error error => exact (noted _ _).bind fun _ => trivial
  | succ retries ih =>
      refine (tries state).bind ?_
      rintro ⟨outcome, after⟩
      cases outcome with
      | ok result => trivial
      | error error =>
          refine (waited delay).bind fun wait => (noted _ _).bind fun _ => ?_
          exact ⟨trivial, fun _ => ih _ after⟩

/-! ## Attempts that fail at once -/

/-- Nothing is done but to pause in between, and the last attempt fails like all others. -/
theorem silent_attempts {error : Error}
    (fails : ∀ state, operation state = .done (.error error, state)) (retries : Nat) (delay : Float)
    (state : State) :
    (attempts policy logger? operation retries delay state).Silent (· = (.error error, state)) := by
  induction retries generalizing delay with
  | zero =>
      rw [attempts, fails]
      exact (silent_note _ _).bind fun _ _ => rfl
  | succ retries ih =>
      rw [attempts, fails]
      refine (silent_wait delay _).bind fun wait _ => (silent_note _ _).bind fun _ _ => ?_
      exact ⟨trivial, fun _ => ih _⟩

end Retry

theorem confined_retry {State Result : Type} {permitted : Request → Prop}
    {operation : State → Program (Except Error Result × State)}
    (tries : ∀ state, (operation state).Confined (Action.Within permitted)) (policy : Backoff)
    (logger? : Option Bytes) (state : State) :
    (retry policy logger? operation state).Confined (Action.Within permitted) := by
  rw [retry]
  cases policy.validate with
  | error error => trivial
  | ok _ => exact Retry.confined_attempts tries _ _ state

/-- A policy that is not valid is refused.  Under any other an attempt is made again after each failure, and
the outcome is that of the last time. -/
theorem tries_of_retryAttempt {Result : Type} {policy : Backoff} {logger? : Option Bytes}
    {attempt : Attempt Result} {events : List Event} {outcome? : Option (Except Error Result)}
    (admitted : (retryAttempt policy logger? attempt).outcome.Admits events outcome?) :
    (events = [] ∧ ∃ error, outcome? = some (.error error)) ∨
      ∃ (failed : List (List Event)) (last : List Event),
        Event.Trimmed (failed.flatten ++ last) events ∧
        (∀ own ∈ failed, ∃ error, attempt.outcome.Admits own (some (.error error))) ∧
        attempt.outcome.Admits last outcome? := by
  obtain ⟨result?, retried, rfl⟩ := Program.admits_of_map admitted
  rw [retry] at retried
  split at retried
  next error refused =>
    obtain ⟨rfl, rfl⟩ := Program.admits_done_iff.mp retried
    exact .inl ⟨rfl, error, rfl⟩
  next valid =>
    obtain ⟨count, _, course, _⟩ := Retry.course_of_attempts retried
    obtain ⟨failed, last, trimmed, unsuccessful, _, tried⟩ := course.exists_tries
    refine .inr ⟨failed, last, trimmed, ?_, ?_⟩
    · intro own member
      obtain ⟨_, error, _, failure⟩ := unsuccessful own member
      obtain ⟨inner?, inner, ended⟩ := Program.admits_of_map failure
      obtain ⟨_, rfl, equal⟩ := Option.map_eq_some_iff.mp ended.symm
      cases equal
      exact ⟨error, inner⟩
    · obtain ⟨inner?, inner, rfl⟩ := Program.admits_of_map tried
      cases inner? <;> exact inner

/-- A policy that is not valid is refused, and any other makes of an attempt that fails at once a failure of
the same kind. -/
theorem silent_retryAttempt {Result : Type} {attempt : Attempt Result} {error : Error}
    (fails : attempt.outcome = .done (.error error)) (policy : Backoff) (logger? : Option Bytes) :
    (retryAttempt policy logger? attempt).outcome.Silent fun outcome =>
      ∃ last, outcome = .error last ∧ (policy.validate = .ok () → last = error) := by
  have tried : (retry policy logger?
      (fun (_ : Unit) => do return (← attempt.outcome, ())) ()).Silent fun result =>
        ∃ last, result.1 = .error last ∧ (policy.validate = .ok () → last = error) := by
    rw [retry]
    split
    next fault refused =>
      refine ⟨fault, rfl, fun valid => ?_⟩
      rw [refused] at valid
      cases valid
    next valid =>
      refine (Retry.silent_attempts (fun _ => by rw [fails]; rfl) _ _ ()).mono ?_
      rintro result rfl
      exact ⟨error, rfl, fun _ => rfl⟩
  rw [retryAttempt, Attempt.outcome_ofProgram]
  exact tried.bind fun _ => id

theorem confined_retryAttempt {Result : Type} {permitted : Request → Prop} {attempt : Attempt Result}
    (tries : attempt.outcome.Confined (Action.Within permitted)) (policy : Backoff)
    (logger? : Option Bytes) :
    (retryAttempt policy logger? attempt).outcome.Confined (Action.Within permitted) := by
  have tried : (retry policy logger?
      (fun (_ : Unit) => do return (← attempt.outcome, ())) ()).Confined
        (Action.Within permitted) := by
    refine confined_retry ?_ policy logger? ()
    intro _
    exact tries.bind fun outcome => Program.confined_done (outcome, ())
  refine tried.bind ?_
  rintro ⟨outcome, _⟩
  trivial

end SandboxClient
