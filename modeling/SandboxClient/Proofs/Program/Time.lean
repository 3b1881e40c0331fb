import SandboxClient.Proofs.Program.Contact

/-!
# Time that passes

The answers to actions are free, so a clock may stand still and a polling loop may look for ever.  Time
passes in a list of events if the clock never goes back and goes on at least while there is a pause.
That is inherited by every selection of the events, so it passes on to the parts of a behaviour, and a
program ends in time if its parts do.
-/

namespace SandboxClient

namespace Event

/-- The clock shows at least `least` nanoseconds, never goes back and goes on during pauses. -/
def TimePassesFrom : (least : Int) → List Event → Prop
  | _, [] => True
  | least, ⟨.now, reading⟩ :: rest => least ≤ reading ∧ TimePassesFrom reading rest
  | least, ⟨.sleep millis, _⟩ :: rest => TimePassesFrom (least + max 0 millis * 1000000) rest
  | least, _ :: rest => TimePassesFrom least rest

/-- The clock never goes back and goes on during pauses, wherever it starts. -/
def TimePasses (events : List Event) : Prop :=
  ∃ least, TimePassesFrom least events

variable {least earlier : Int} {event : Event} {events selected : List Event}

theorem TimePassesFrom.of_le (passes : TimePassesFrom least events) (le : earlier ≤ least) :
    TimePassesFrom earlier events := by
  induction events generalizing least earlier with
  | nil => trivial
  | cons event events ih =>
      obtain ⟨action, answer⟩ := event
      cases action with
      | now => exact ⟨Int.le_trans le passes.1, passes.2⟩
      | sleep millis =>
          have later : earlier + max 0 millis * 1000000 ≤ least + max 0 millis * 1000000 := by omega
          exact ih passes later
      | _ => exact ih passes le

theorem TimePassesFrom.tail (passes : TimePassesFrom least (event :: events)) :
    TimePassesFrom least events := by
  obtain ⟨action, answer⟩ := event
  cases action with
  | now => exact passes.2.of_le passes.1
  | sleep millis =>
      have later : least ≤ least + max 0 millis * 1000000 := by omega
      exact TimePassesFrom.of_le passes later
  | _ => exact passes

/-- Leaving events out leaves less to be asked of the clock. -/
theorem TimePassesFrom.sublist (passes : TimePassesFrom least events)
    (sublist : selected.Sublist events) : TimePassesFrom least selected := by
  induction sublist generalizing least with
  | slnil => trivial
  | cons event sublist ih => exact ih passes.tail
  | cons_cons event sublist ih =>
      obtain ⟨action, answer⟩ := event
      cases action with
      | now => exact ⟨passes.1, ih passes.2⟩
      | _ => exact ih passes

theorem TimePasses.sublist (passes : TimePasses events) (sublist : selected.Sublist events) :
    TimePasses selected := by
  obtain ⟨least, passes⟩ := passes
  exact ⟨least, passes.sublist sublist⟩

theorem TimePasses.visible (passes : TimePasses events) : TimePasses (visible events) :=
  passes.sublist List.filter_sublist

/-- Log records do not matter to the clock. -/
theorem TimePassesFrom.of_visible (passes : TimePassesFrom least (visible events)) :
    TimePassesFrom least events := by
  induction events generalizing least with
  | nil => trivial
  | cons event events ih =>
      obtain ⟨action, answer⟩ := event
      cases action with
      | now => exact ⟨passes.1, ih passes.2⟩
      | _ => exact ih passes

theorem TimePasses.of_visible (passes : TimePasses (Event.visible events)) : TimePasses events := by
  obtain ⟨least, passes⟩ := passes
  exact ⟨least, passes.of_visible⟩

/-- After a reading, the clock goes on from there. -/
theorem TimePasses.from_reading (before : List Event) {reading : Int} {after : List Event}
    (passes : TimePasses (before ++ ⟨.now, reading⟩ :: after)) : TimePassesFrom reading after := by
  obtain ⟨least, passes⟩ := passes
  exact (passes.sublist (List.sublist_append_right before _)).2

/-! ## Clocks that keep time -/

/-- The clock shows `begun` before some events and `finish` after them.  It goes on by exactly the pauses
and, while calls are made, by as many nanoseconds as `spans` says of each; nothing else takes time. -/
def Timed : (begun : Int) → List Event → (spans : List Int) → (finish : Int) → Prop
  | begun, [], spans, finish => spans = [] ∧ finish = begun
  | begun, ⟨.now, reading⟩ :: rest, spans, finish => reading = begun ∧ Timed begun rest spans finish
  | begun, ⟨.sleep millis, _⟩ :: rest, spans, finish =>
    Timed (begun + max 0 millis * 1000000) rest spans finish
  | begun, ⟨.request _, _⟩ :: rest, spans, finish =>
    ∃ span later, spans = span :: later ∧ 0 ≤ span ∧ Timed (begun + span) rest later finish
  | begun, ⟨.transfer _, _⟩ :: rest, spans, finish =>
    ∃ span later, spans = span :: later ∧ 0 ≤ span ∧ Timed (begun + span) rest later finish
  | begun, _ :: rest, spans, finish => Timed begun rest spans finish

variable {begun finish : Int} {spans : List Int}

theorem Timed.timePassesFrom (timed : Timed begun events spans finish) :
    TimePassesFrom begun events := by
  induction events generalizing begun spans with
  | nil => trivial
  | cons event events ih =>
      obtain ⟨action, answer⟩ := event
      cases action with
      | now => exact ⟨Int.le_of_eq timed.1.symm, timed.1 ▸ ih timed.2⟩
      | request request =>
          obtain ⟨span, later, rfl, forwards, timed⟩ := timed
          exact (ih timed).of_le (Int.le_add_of_nonneg_right forwards)
      | transfer transfer =>
          obtain ⟨span, later, rfl, forwards, timed⟩ := timed
          exact (ih timed).of_le (Int.le_add_of_nonneg_right forwards)
      | _ => exact ih timed

/-- Writing log records takes no time. -/
theorem Timed.visible (timed : Timed begun events spans finish) :
    Timed begun (visible events) spans finish := by
  induction events generalizing begun spans with
  | nil => exact timed
  | cons event events ih =>
      obtain ⟨action, answer⟩ := event
      cases action with
      | now => exact ⟨timed.1, ih timed.2⟩
      | request request =>
          obtain ⟨span, later, rfl, forwards, timed⟩ := timed
          exact ⟨span, later, rfl, forwards, ih timed⟩
      | transfer transfer =>
          obtain ⟨span, later, rfl, forwards, timed⟩ := timed
          exact ⟨span, later, rfl, forwards, ih timed⟩
      | _ => exact ih timed

/-- Pauses are whole milliseconds, so that no part of one passes unless a call takes it. -/
theorem Timed.dvd_sub (timed : Timed begun events spans finish)
    (whole : ∀ span ∈ spans, 1000000 ∣ span) : 1000000 ∣ finish - begun := by
  induction events generalizing begun spans with
  | nil =>
      obtain ⟨rfl, rfl⟩ := timed
      simp
  | cons event events ih =>
      have called : (∃ span later, spans = span :: later ∧ 0 ≤ span ∧
          Timed (begun + span) events later finish) → 1000000 ∣ finish - begun := by
        rintro ⟨span, later, rfl, _, timed⟩
        obtain ⟨here, later⟩ := List.forall_mem_cons.mp whole
        have rest := ih timed later
        omega
      obtain ⟨action, answer⟩ := event
      cases action with
      | now => exact ih timed.2 whole
      | sleep millis =>
          have timed : Timed (begun + max 0 millis * 1000000) events spans finish := timed
          have rest := ih timed whole
          omega
      | request request => exact called timed
      | transfer transfer => exact called timed
      | _ => exact ih timed whole

/-- What comes last takes the last spans. -/
theorem Timed.split {first second : List Event} (timed : Timed begun (first ++ second) spans finish) :
    ∃ between early late, spans = early ++ late ∧ Timed begun first early between ∧
      Timed between second late finish := by
  induction first generalizing begun spans with
  | nil => exact ⟨begun, [], spans, rfl, ⟨rfl, rfl⟩, timed⟩
  | cons event first ih =>
      obtain ⟨action, answer⟩ := event
      cases action with
      | now =>
          obtain ⟨reading_eq, timed⟩ := timed
          obtain ⟨between, early, late, rfl, before, after⟩ := ih timed
          exact ⟨between, early, late, rfl, ⟨reading_eq, before⟩, after⟩
      | request request =>
          obtain ⟨span, later, rfl, forwards, timed⟩ := timed
          obtain ⟨between, early, late, rfl, before, after⟩ := ih timed
          exact ⟨between, span :: early, late, rfl, ⟨span, early, rfl, forwards, before⟩, after⟩
      | transfer transfer =>
          obtain ⟨span, later, rfl, forwards, timed⟩ := timed
          obtain ⟨between, early, late, rfl, before, after⟩ := ih timed
          exact ⟨between, span :: early, late, rfl, ⟨span, early, rfl, forwards, before⟩, after⟩
      | _ => exact ih timed

end Event

/-! ## Programs that end in time -/

namespace Program

variable {Result Other : Type}

/-- Whatever the answers, a program comes to an end if time passes. -/
def EndsInTime (program : Program Result) : Prop :=
  ∀ events, Event.TimePasses events → ¬ program.Admits events none

theorem endsInTime_done (result : Result) : (Program.done result).EndsInTime := by
  intro events _ admitted
  cases (admits_done_iff.mp admitted).2

theorem endsInTime_act {action : Action} {next : action.Answer → Program Result}
    (follows : ∀ answer, (next answer).EndsInTime) : (Program.act action next).EndsInTime := by
  intro events passes admitted
  obtain ⟨answer, rest, rfl, later⟩ := admits_act_iff.mp admitted
  exact follows answer rest (passes.sublist (List.sublist_cons_self _ _)) later

/-- What follows only has to end in time after the results that there may be. -/
theorem EndsInTime.bind {program : Program Result} {continuation : Result → Program Other}
    (first : program.EndsInTime)
    (second : ∀ events result, program.Admits events (some result) →
      (continuation result).EndsInTime) : (program.bind continuation).EndsInTime := by
  intro events passes admitted
  rcases admits_bind_iff.mp admitted with ⟨result, before, after, rfl, inner, follows⟩ | ⟨stalls, _⟩
  · exact second before result inner after (passes.sublist (List.sublist_append_right _ _)) follows
  · exact first events passes stalls

end Program

theorem Attempt.endsInTime_bind {Result Other : Type} {attempt : Attempt Result}
    {continuation : Result → Attempt Other} (first : attempt.outcome.EndsInTime)
    (second : ∀ result, (continuation result).outcome.EndsInTime) :
    (attempt >>= continuation).outcome.EndsInTime := by
  rw [outcome_bind]
  refine first.bind fun _ outcome _ => ?_
  cases outcome with
  | ok result => exact second result
  | error error => exact Program.endsInTime_done _

end SandboxClient
