import SandboxClient.Proofs.Polling.Deadline
import SandboxClient.Proofs.Program.Rehearsal
import SandboxClient.Proofs.Sandbox.Lifecycle
import SandboxClient.Proofs.Sandbox.StartOutcome

/-!
# The deadline of a start

A start that was granted a sandbox looks at its status as often as there is time for after the settle
delay, and each look is bounded by what is left of the time when it begins.  If the looks keep to their
bounds, the start succeeds before its deadline or fails at most a pause after it.

What is left of the time is counted in whole milliseconds.  A part of a millisecond that a look takes is
not taken off the bound of the next one, so that the deadline may be missed by less than a millisecond.
-/

namespace SandboxClient

namespace Sandbox

variable {sandbox : Sandbox} {id : Bytes} {patience : Nat} {events : List Event}
  {begun finish : Int} {spans : List Int}

/-- The bound of a look in milliseconds: ten seconds, but no more than is left of the startup timeout. -/
def lookTimeout (sandbox : Sandbox) (elapsed : Int) : Int :=
  min 10000 (1000 * sandbox.config.startupTimeout - elapsed)

/-- A round of a start: the clock is read, the status is asked for, and unless the answer shows the sandbox
alive there is one pause. -/
def lookRound (sandbox : Sandbox) (id : Bytes) (start : Int) (look : Look) : List Event :=
  [⟨.now, look.reading⟩,
    ⟨.request (sandbox.statusRequest id (sandbox.lookTimeout (look.elapsed start))), look.answer⟩] ++
    if (aliveStatus? look.answer).isSome then [] else [⟨.sleep 3000, ()⟩]

theorem startBudget_eq (sandbox : Sandbox) :
    sandbox.startBudget = 1000 * sandbox.config.startupTimeout :=
  Int.mul_comm _ _

theorem roundEvents_watching (sandbox : Sandbox) (id : Bytes) (start : Int) :
    (sandbox.watching id).roundEvents start = sandbox.lookRound id start := by
  funext look
  cases seen : aliveStatus? look.answer <;>
    simp [Polling.roundEvents, Polling.lookEvents, lookRound, lookTimeout, watching, statusTimeout,
      statusInterval, startBudget_eq, seen]

/-- What a start does with the sandbox that was granted to it: it waits for the settle delay and then looks
at the status until `finish`.  The looks take the given spans, which are in nanoseconds, like the readings
of the clock. -/
structure StartWatch (sandbox : Sandbox) (placement : Placement) (scheduling : Contact)
    (start finish : Int) (visible : List Event) (looks : List Look) (spans : List Int)
    (outcome : Except Error Unit) : Prop where
  /-- The clock is read after the settle delay, then there are the rounds of the looks, and at last the
  clock may be read. -/
  events_eq : ∃ closing, (∀ event ∈ closing, event.action = .now) ∧
    visible = [scheduling.event, ⟨.sleep 2000, ()⟩, ⟨.now, start⟩] ++
      looks.flatMap (sandbox.lookRound placement.id start) ++ closing
  looks_ne_nil : looks ≠ []
  /-- The looks and the end of the start, in whole milliseconds. -/
  timetable : Polling.Timetable (1000 * sandbox.config.startupTimeout) 3000 sandbox.lookTimeout
    (1000 * sandbox.config.startupTimeout + 3000) start finish looks spans outcome.isOk
  /-- In exact time, a look begins before the deadline, and its bound reaches less than a millisecond past
  it. -/
  look_lt : ∀ look ∈ looks, look.reading - start < 1000 * sandbox.config.startupTimeout * 1000000 ∧
    look.reading - start + sandbox.lookTimeout (look.elapsed start) * 1000000 <
      (1000 * sandbox.config.startupTimeout + 1) * 1000000
  /-- If the looks keep to their bounds, the start ends less than a millisecond after the limit of the
  timetable, and if it succeeds less than a millisecond after its deadline. -/
  finish_lt : Polling.Prompt sandbox.lookTimeout start looks spans →
    finish - start < (1000 * sandbox.config.startupTimeout + 3000 + 1) * 1000000 ∧
      (outcome.isOk = true → finish - start < (1000 * sandbox.config.startupTimeout + 1) * 1000000)
  /-- If they take whole milliseconds, it keeps to both exactly. -/
  finish_le : (∀ span ∈ spans, 1000000 ∣ span) → Polling.Prompt sandbox.lookTimeout start looks spans →
    finish - start ≤ (1000 * sandbox.config.startupTimeout + 3000) * 1000000 ∧
      (outcome.isOk = true → finish - start ≤ 1000 * sandbox.config.startupTimeout * 1000000)

theorem timetable_of_watching {start : Int} {looks : List Look} {verdict? : Option SandboxStatus}
    (watched : (sandbox.watching id).Rounds start patience looks events (some verdict?))
    (timed : Event.Timed start events spans finish) (funded : 0 < sandbox.config.startupTimeout) :
    Polling.Timetable (1000 * sandbox.config.startupTimeout) 3000 sandbox.lookTimeout
      (1000 * sandbox.config.startupTimeout + 3000) start finish looks spans verdict?.isSome := by
  have clipped : ∀ elapsed, sandbox.lookTimeout elapsed =
      min 10000 ((sandbox.watching id).budget - elapsed) := by
    intro elapsed
    rw [lookTimeout, ← startBudget_eq]
    rfl
  have pauses : (0 : Int) < statusInterval := by decide
  have nonneg : 0 ≤ 1000 * sandbox.config.startupTimeout + 3000 := by omega
  rw [← startBudget_eq] at nonneg ⊢
  exact watched.timetable timed pauses clipped (by decide) nonneg (Int.le_refl _)

theorem startWatch_of_startCourse {result? : Option (Except Error Unit × Sandbox)}
    (course : StartCourse sandbox patience events result?)
    (timed : Event.Timed begun events spans finish) (funded : 0 < sandbox.config.startupTimeout)
    (enough : ⌈(1000 * sandbox.config.startupTimeout : ℚ) / 3000⌉₊ < patience) :
    ∃ outcome after, result? = some (outcome, after) ∧
      ∀ scheduling placement, (Event.contacts events).head? = some scheduling →
        grantedPlacement? scheduling.answer = some placement →
        ∃ span lookSpans looks, spans = span :: lookSpans ∧
          sandbox.StartWatch placement scheduling (begun + span + 2000 * 1000000) finish events looks
            lookSpans outcome := by
  cases course with
  | refused answer error refuses =>
      refine ⟨.error error, sandbox.abandoned, rfl, ?_⟩
      rintro scheduling placement ⟨⟩ grants
      simp [refuses] at grants
  | @granted answer start placement looks rounds verdict? grants watched =>
      obtain ⟨span, lookSpans, rfl, forwards, start_eq, timed⟩ := timed
      have settled : begun + span + 2000 * 1000000 = start := start_eq.symm
      rw [← start_eq] at timed
      have timed : Event.Timed start rounds lookSpans finish := timed
      have pauses : (0 : Int) < statusInterval := by decide
      have patient : ⌈((sandbox.watching placement.id).budget : ℚ) /
          (sandbox.watching placement.id).interval⌉₊ < patience := by
        simpa [watching, startBudget_eq, statusInterval] using enough
      obtain ⟨verdict?, rfl⟩ := Option.isSome_iff_exists.mp
        (watched.isSome_of_patient timed.timePassesFrom pauses patient)
      have isOk_eq : (sandbox.startResult placement verdict?).1.isOk = verdict?.isSome := by
        cases verdict? <;> rfl
      have timetable := timetable_of_watching watched timed funded
      rw [← isOk_eq] at timetable
      have taken : looks ≠ [] := by
        refine watched.looks_ne_nil timed ?_ (Nat.ne_of_gt (Nat.zero_lt_of_lt enough))
        show 0 < sandbox.startBudget
        rw [startBudget_eq]
        omega
      obtain ⟨closing, closingOnly, rfl⟩ := watched.events_eq
      refine ⟨_, _, rfl, ?_⟩
      rintro scheduling granted ⟨⟩ also
      obtain rfl : granted = placement := Option.some.inj (also.symm.trans grants)
      rw [roundEvents_watching]
      refine ⟨span, lookSpans, looks, rfl, ?_⟩
      rw [settled]
      exact {
        events_eq := by
          refine ⟨closing, closingOnly, ?_⟩
          rw [List.append_assoc]
          rfl
        looks_ne_nil := taken
        timetable := timetable
        look_lt := timetable.look_lt
        finish_lt := timetable.finish_lt (by omega) (by omega)
        finish_le := fun whole => timetable.finish_le_of_dvd (timed.dvd_sub whole) }

/-- By a clock that keeps time, a start with a valid configuration comes to an end.  If a sandbox is granted to
it, it looks at that one at least once, and its looks and the time they take are what the watch says.  What
has elapsed is counted in whole milliseconds there, and the end is also given in exact time. -/
theorem start_keeps_deadline (valid : sandbox.config.validate = .ok ()) {State : Type}
    (world : World State) (patience : Nat) (state : State) :
    let run := (sandbox.start patience).run world state
    Event.Timed begun run.events spans finish →
      ⌈(1000 * sandbox.config.startupTimeout : ℚ) / 3000⌉₊ < patience →
      ∃ outcome after, run.result? = some (outcome, after) ∧
        ∀ scheduling placement, (Event.contacts run.events).head? = some scheduling →
          grantedPlacement? scheduling.answer = some placement →
          ∃ span lookSpans looks, spans = span :: lookSpans ∧
            sandbox.StartWatch placement scheduling (begun + span + 2000 * 1000000) finish
              (Event.visible run.events) looks lookSpans outcome := by
  intro run timed enough
  have admitted : (sandbox.start patience).Admits run.events run.result? :=
    Program.admits_run world _ state
  by_cases alive : sandbox.state = .alive
  · obtain ⟨silent, ended⟩ := start_of_alive alive admitted
    exact ⟨_, _, ended, by simp [silent]⟩
  · rw [start_eq_launch valid alive] at admitted
    rw [← Event.contacts_visible]
    exact startWatch_of_startCourse (startCourse_of_launch admitted) timed.visible
      (startupTimeout_pos_of_validate valid) enough

/-- A start with four seconds that sees its sandbox alive in the last half second, when every call takes
half a second. -/
theorem start_keeps_deadline_rehearsed :
    let sandbox : Sandbox :=
      { config := { cpus := .finite false 1 0, startupTimeout := 4 }, routeKey := [] }
    let replies := [Rehearsal.success [(utf8 "sandbox_id", .string (utf8 "sb-1"))],
      Rehearsal.success [(utf8 "is_alive", .boolean false)],
      Rehearsal.success [(utf8 "is_alive", .boolean true)]]
    let run := (sandbox.start 3).run (Rehearsal.slowWorld 500000000) ⟨replies, 0⟩
    let spans : List Int := [500000000, 500000000, 500000000]
    (sandbox.config.validate = .ok () ∧ Event.Timed 0 run.events spans 6500000000 ∧
        ⌈(1000 * sandbox.config.startupTimeout : ℚ) / 3000⌉₊ < 3) ∧
      (run.result?.map fun result => result.1.isOk) = some true ∧
      ∃ outcome after, run.result? = some (outcome, after) ∧
        ∀ scheduling placement, (Event.contacts run.events).head? = some scheduling →
          grantedPlacement? scheduling.answer = some placement →
          ∃ span lookSpans looks, spans = span :: lookSpans ∧
            sandbox.StartWatch placement scheduling (0 + span + 2000 * 1000000) 6500000000
              (Event.visible run.events) looks lookSpans outcome := by
  intro sandbox replies run spans
  have valid : sandbox.config.validate = .ok () := by rfl
  have timed : Event.Timed 0 run.events spans 6500000000 :=
    ⟨_, _, rfl, by decide, rfl, rfl, _, _, rfl, by decide, rfl, _, _, rfl, by decide, rfl, rfl⟩
  have enough : ⌈(1000 * sandbox.config.startupTimeout : ℚ) / 3000⌉₊ < 3 := by
    have at_most : (1000 * sandbox.config.startupTimeout : ℚ) / 3000 ≤ (2 : Nat) := by
      show (1000 * (4 : Int) : ℚ) / 3000 ≤ (2 : Nat)
      norm_num
    exact Nat.lt_succ_of_le (Nat.ceil_le.mpr at_most)
  exact ⟨⟨valid, timed, enough⟩, by rfl, start_keeps_deadline valid _ 3 _ timed enough⟩

/-- When a look takes nine tenths of a millisecond, these are not taken off the bound of the next one.  Then
all calls may keep to their bounds, and the start succeeds after its deadline all the same. -/
theorem start_outlasts_deadline :
    let sandbox : Sandbox :=
      { config := { cpus := .finite false 1 0, startupTimeout := 4 }, routeKey := [] }
    let replies := [Rehearsal.success [(utf8 "sandbox_id", .string (utf8 "sb-1"))],
      Rehearsal.success [(utf8 "is_alive", .boolean false)],
      Rehearsal.success [(utf8 "is_alive", .boolean true)]]
    let spans : List Int := [0, 900000, 1000000000]
    let run := (sandbox.start 3).run Rehearsal.unevenWorld (⟨replies, 0⟩, spans)
    let settled : Int := 2000 * 1000000
    let finish : Int := 6000900000
    (sandbox.config.validate = .ok () ∧ Event.Timed 0 run.events spans finish ∧
        List.Forall₂ (fun call span => span ≤ call.request.timeout * 1000000)
          (Event.contacts run.events) spans) ∧
      (run.result?.map fun result => result.1.isOk) = some true ∧
      ¬ finish - settled ≤ 1000 * sandbox.config.startupTimeout * 1000000 := by
  intro sandbox replies spans run settled finish
  have timed : Event.Timed 0 run.events spans finish :=
    ⟨_, _, rfl, by decide, rfl, rfl, _, _, rfl, by decide, rfl, _, _, rfl, by decide, rfl, rfl⟩
  have timeouts : (Event.contacts run.events).map (fun call => call.request.timeout) =
      [300000, 4000, 1000] := by rfl
  have prompt : List.Forall₂ (fun timeout span => span ≤ timeout * 1000000) [300000, 4000, 1000] spans := by
    simp [spans]
  rw [← timeouts, List.forall₂_map_left_iff] at prompt
  exact ⟨⟨by rfl, timed, prompt⟩, by rfl, by decide⟩

end Sandbox

end SandboxClient
