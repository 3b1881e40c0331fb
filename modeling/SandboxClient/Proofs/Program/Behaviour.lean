import SandboxClient.Program

/-!
# Behaviours of programs

A behaviour of a program is a list of events it may cause together with the result it then has, or
with no result if it stalls.  Behaviours do not mention a world: an action may get any answer.  The
run of a program in a world is one of its behaviours, so what holds of all behaviours holds whatever
the service, the clock and the file system do.

The rules below take the behaviours of a program apart along its construction.
-/

namespace SandboxClient

namespace Program

variable {Result Other State : Type}

/-- A program may cause a list of events and end with a result, or stall without one. -/
inductive Admits : Program Result → List Event → Option Result → Prop
  | done (result : Result) : Admits (.done result) [] (some result)
  | stalled : Admits .stalled [] none
  | act {action : Action} {next : action.Answer → Program Result} {events : List Event}
      {result? : Option Result} (answer : action.Answer)
      (rest : Admits (next answer) events result?) :
      Admits (.act action next) (⟨action, answer⟩ :: events) result?

/-- Whatever the world answers, a run is a behaviour. -/
theorem admits_run (world : World State) (program : Program Result) (state : State) :
    program.Admits (program.run world state).events (program.run world state).result? := by
  induction program generalizing state with
  | done result => exact .done result
  | stalled => exact .stalled
  | act action next ih => exact .act _ (ih _ _)

theorem answer_of_mem_run {world : World State} {program : Program Result} {state : State}
    {event : Event} (member : event ∈ (program.run world state).events) :
    ∃ before, event.answer = (world.answer event.action before).1 := by
  induction program generalizing state with
  | done result => cases member
  | stalled => cases member
  | act action next ih =>
      rcases List.mem_cons.mp member with rfl | later
      · exact ⟨state, rfl⟩
      · exact ih _ later

/-- A program with a result is followed from the state that it leaves. -/
theorem run_bind_of_some {program : Program Result} {continuation : Result → Program Other}
    {world : World State} {state : State} {result : Result}
    (ended : (program.run world state).result? = some result) :
    (program.bind continuation).run world state =
      let first := program.run world state
      let second := (continuation result).run world first.state
      { second with events := first.events ++ second.events } := by
  induction program generalizing state with
  | done _ => cases ended; rfl
  | stalled => cases ended
  | act action next ih => simp only [bind, run, ih _ ended, List.cons_append]

/-- A program that stalls is not followed by anything. -/
theorem run_bind_of_none {program : Program Result} {continuation : Result → Program Other}
    {world : World State} {state : State} (stalls : (program.run world state).result? = none) :
    (program.bind continuation).run world state =
      let first := program.run world state
      ⟨none, first.events, first.state⟩ := by
  induction program generalizing state with
  | done _ => cases stalls
  | stalled => rfl
  | act action next ih => simp only [bind, run, ih _ stalls]

@[simp]
theorem admits_done_iff {result : Result} {events : List Event} {result? : Option Result} :
    (Program.done result).Admits events result? ↔ events = [] ∧ result? = some result := by
  constructor
  · intro admitted
    cases admitted
    exact ⟨rfl, rfl⟩
  · rintro ⟨rfl, rfl⟩
    exact .done result

@[simp]
theorem admits_stalled_iff {events : List Event} {result? : Option Result} :
    (Program.stalled : Program Result).Admits events result? ↔ events = [] ∧ result? = none := by
  constructor
  · intro admitted
    cases admitted
    exact ⟨rfl, rfl⟩
  · rintro ⟨rfl, rfl⟩
    exact .stalled

@[simp]
theorem admits_act_iff {action : Action} {next : action.Answer → Program Result}
    {events : List Event} {result? : Option Result} :
    (Program.act action next).Admits events result? ↔
      ∃ answer rest, events = ⟨action, answer⟩ :: rest ∧ (next answer).Admits rest result? := by
  constructor
  · intro admitted
    cases admitted with
    | act answer rest => exact ⟨answer, _, rfl, rest⟩
  · rintro ⟨answer, rest, rfl, admitted⟩
    exact .act answer admitted

/-- A program followed by another behaves like the first and then like the second, unless the first
stalls. -/
theorem admits_bind_iff {program : Program Result} {continuation : Result → Program Other}
    {events : List Event} {other? : Option Other} :
    (program.bind continuation).Admits events other? ↔
      (∃ result first second, events = first ++ second ∧ program.Admits first (some result) ∧
        (continuation result).Admits second other?) ∨
      (program.Admits events none ∧ other? = none) := by
  induction program generalizing events with
  | done result =>
      simp only [bind, admits_done_iff]
      constructor
      · intro follows
        exact .inl ⟨result, [], events, rfl, ⟨rfl, rfl⟩, follows⟩
      · rintro (⟨_, _, second, rfl, ⟨rfl, equal⟩, follows⟩ | ⟨⟨_, impossible⟩, _⟩)
        · cases equal
          exact follows
        · cases impossible
  | stalled => simp [bind]
  | act action next ih =>
      simp only [bind, admits_act_iff, ih]
      constructor
      · rintro ⟨answer, rest, rfl, ⟨result, first, second, rfl, admitted, follows⟩ | ⟨stops, rfl⟩⟩
        · exact .inl ⟨result, ⟨action, answer⟩ :: first, second, rfl,
            ⟨answer, first, rfl, admitted⟩, follows⟩
        · exact .inr ⟨⟨answer, rest, rfl, stops⟩, rfl⟩
      · rintro (⟨result, _, second, rfl, ⟨answer, first, rfl, admitted⟩, follows⟩ |
          ⟨⟨answer, rest, rfl, stops⟩, rfl⟩)
        · exact ⟨answer, first ++ second, rfl,
            .inl ⟨result, first, second, rfl, admitted, follows⟩⟩
        · exact ⟨answer, rest, rfl, .inr ⟨stops, rfl⟩⟩

/-- A program whose result is changed behaves like the program. -/
theorem admits_of_map {program : Program Result} {change : Result → Other} {events : List Event}
    {other? : Option Other}
    (admitted : (program.bind fun result => .done (change result)).Admits events other?) :
    ∃ result?, program.Admits events result? ∧ other? = result?.map change := by
  rcases admits_bind_iff.mp admitted with ⟨result, first, second, rfl, inner, ended⟩ | ⟨stops, rfl⟩
  · obtain ⟨rfl, rfl⟩ := admits_done_iff.mp ended
    exact ⟨some result, by simpa using inner, rfl⟩
  · exact ⟨none, stops, rfl⟩

end Program

/-! ## Attempts -/

theorem Except.exists_of_bind_eq_ok {Failure Value Other : Type} {outcome : Except Failure Value}
    {continuation : Value → Except Failure Other} {other : Other}
    (bound : outcome >>= continuation = .ok other) :
    ∃ value, outcome = .ok value ∧ continuation value = .ok other := by
  cases outcome with
  | error error => cases bound
  | ok value => exact ⟨value, rfl, bound⟩

namespace Attempt

variable {Result Other : Type}

/-- What follows the outcome of an attempt: an error ends it. -/
def resume (continuation : Result → Attempt Other) :
    Except Error Result → Program (Except Error Other)
  | .ok result => (continuation result).outcome
  | .error error => .done (.error error)

theorem outcome_bind (attempt : Attempt Result) (continuation : Result → Attempt Other) :
    (attempt >>= continuation).outcome = attempt.outcome.bind (resume continuation) := by
  show attempt.run.bind _ = _
  congr 1
  funext outcome
  cases outcome <;> rfl

@[simp]
theorem outcome_pure (result : Result) :
    (pure result : Attempt Result).outcome = .done (.ok result) :=
  rfl

@[simp]
theorem outcome_throw (error : Error) :
    (throw error : Attempt Result).outcome = .done (.error error) :=
  rfl

@[simp]
theorem outcome_ofExcept (outcome : Except Error Result) :
    (Attempt.ofExcept outcome).outcome = .done outcome :=
  rfl

@[simp]
theorem outcome_ofProgram (program : Program (Except Error Result)) :
    (Attempt.ofProgram program).outcome = program :=
  rfl

@[simp]
theorem outcome_ok_bind (result : Result) (continuation : Result → Attempt Other) :
    (Attempt.ofExcept (.ok result) >>= continuation).outcome = (continuation result).outcome :=
  rfl

@[simp]
theorem outcome_error_bind (error : Error) (continuation : Result → Attempt Other) :
    (Attempt.ofExcept (.error error) >>= continuation).outcome = .done (.error error) :=
  rfl

theorem outcome_bind_of_error {attempt : Attempt Result} {error : Error}
    (failed : attempt.outcome = .done (.error error)) (continuation : Result → Attempt Other) :
    (attempt >>= continuation).outcome = .done (.error error) := by
  rw [outcome_bind, failed]
  rfl

theorem outcome_lift (program : Program Result) :
    (liftM program : Attempt Result).outcome = program.bind fun result => .done (.ok result) :=
  rfl

theorem outcome_lift_bind (program : Program Result) (continuation : Result → Attempt Other) :
    ((liftM program : Attempt Result) >>= continuation).outcome =
      program.bind fun result => (continuation result).outcome := by
  rw [outcome_bind, outcome_lift, Program.bind_assoc]
  rfl

/-- An attempt followed by another behaves like the first and then, unless the first fails or stalls,
like the second. -/
theorem admits_bind_iff {attempt : Attempt Result} {continuation : Result → Attempt Other}
    {events : List Event} {outcome? : Option (Except Error Other)} :
    (attempt >>= continuation).outcome.Admits events outcome? ↔
      (∃ result first second, events = first ++ second ∧
        attempt.outcome.Admits first (some (.ok result)) ∧
        (continuation result).outcome.Admits second outcome?) ∨
      (∃ error, attempt.outcome.Admits events (some (.error error)) ∧
        outcome? = some (.error error)) ∨
      (attempt.outcome.Admits events none ∧ outcome? = none) := by
  rw [outcome_bind, Program.admits_bind_iff]
  constructor
  · rintro (⟨result | result, first, second, rfl, admitted, follows⟩ | stops)
    · obtain ⟨rfl, rfl⟩ := Program.admits_done_iff.mp follows
      exact .inr (.inl ⟨result, by simpa using admitted, rfl⟩)
    · exact .inl ⟨result, first, second, rfl, admitted, follows⟩
    · exact .inr (.inr stops)
  · rintro (⟨result, first, second, rfl, admitted, follows⟩ | ⟨error, admitted, rfl⟩ | stops)
    · exact .inl ⟨.ok result, first, second, rfl, admitted, follows⟩
    · exact .inl ⟨.error error, events, [], by simp, admitted, .done _⟩
    · exact .inr stops

/-- An attempt whose result is changed behaves like the attempt. -/
theorem admits_of_map {attempt : Attempt Result} {change : Result → Other} {events : List Event}
    {outcome? : Option (Except Error Other)}
    (admitted : (attempt >>= fun result => pure (change result)).outcome.Admits events outcome?) :
    ∃ inner?, attempt.outcome.Admits events inner? ∧
      outcome? = inner?.map fun outcome => outcome.map change := by
  have resumed : resume (fun result => pure (change result)) =
      fun outcome : Except Error Result => Program.done (outcome.map change) := by
    funext outcome
    cases outcome <;> rfl
  rw [outcome_bind, resumed] at admitted
  exact Program.admits_of_map admitted

end Attempt

end SandboxClient
