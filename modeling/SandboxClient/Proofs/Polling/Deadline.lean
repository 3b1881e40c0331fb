import Mathlib.Data.Rat.Floor
import SandboxClient.Proofs.Polling

/-!
# Polling against a deadline

A polling loop counts no looks.  That it takes few of them, and that it ends soon after its budget is
spent, follows from the clock: every look but the last is followed by a pause, and no look may last longer
than what is left of the budget when it begins.

What has elapsed is read from the clock in whole milliseconds.  So the bounds hold in whole milliseconds, and
in exact time but for a part of one.
-/

namespace SandboxClient

/-- A call that takes at most some milliseconds lets the clock go on by at most as many. -/
theorem Clock.millisBetween_add_le {start reading span millis : Int} (reached : start ≤ reading)
    (forwards : 0 ≤ span) (short : span ≤ millis * 1000000) :
    millisBetween start (reading + span) ≤ millisBetween start reading + millis := by
  have later : 0 ≤ reading + span - start := by omega
  rw [millisBetween, millisBetween, Int.tdiv_eq_ediv_of_nonneg later,
    Int.tdiv_eq_ediv_of_nonneg (Int.sub_nonneg.mpr reached)]
  omega

namespace Polling

variable {Verdict : Type} {polling : Polling Verdict} {start clock finish : Int} {patience : Nat}
  {looks : List Look} {events : List Event} {result? : Option (Option Verdict)} {spans : List Int}

/-- The events of a look and, unless it settles the question, of the pause behind it. -/
def roundEvents (polling : Polling Verdict) (start : Int) (look : Look) : List Event :=
  polling.lookEvents start look ++
    if (polling.verdict? look.answer).isNone then [⟨.sleep polling.interval, ()⟩] else []

/-- No look takes longer than its bound allows, which depends on the milliseconds that have elapsed when
the look begins.  The bound is in milliseconds, the spans are in nanoseconds. -/
def Prompt (bound : Int → Int) (start : Int) : List Look → (spans : List Int) → Prop :=
  List.Forall₂ fun look span => span ≤ bound (look.elapsed start) * 1000000

namespace Rounds

/-- A loop goes from round to round.  At last it may read the clock once more. -/
theorem events_eq (rounds : polling.Rounds start patience looks events result?) :
    ∃ closing, (∀ event ∈ closing, event.action = .now) ∧
      events = looks.flatMap (polling.roundEvents start) ++ closing := by
  induction rounds with
  | stalled => exact ⟨[], by simp, rfl⟩
  | expired reading spent => exact ⟨[⟨.now, reading⟩], by simp, rfl⟩
  | settled inTime settles => exact ⟨[], by simp, by simp [roundEvents, settles]⟩
  | again inTime unsettled rest ih =>
      obtain ⟨closing, clockOnly, rfl⟩ := ih
      exact ⟨closing, clockOnly, by simp [roundEvents, unsettled]⟩

/-! ## How many looks there are -/

theorem length_le (rounds : polling.Rounds start patience looks events result?)
    (passes : Event.TimePassesFrom start events) (pauses : 0 < polling.interval) :
    looks.length ≤ ⌈(polling.budget : ℚ) / polling.interval⌉₊ := by
  rcases rounds.pauses_lt (Int.le_refl start) passes with rfl | within
  · exact Nat.zero_le _
  cases looks with
  | nil => exact Nat.zero_le _
  | cons look looks =>
      have begun : Clock.millisBetween start start = 0 := by simp [Clock.millisBetween]
      have paused : (looks.length : Int) * polling.interval < polling.budget := by
        simpa [begun] using within
      have positive : (0 : ℚ) < polling.interval := by exact_mod_cast pauses
      have fewer : (looks.length : ℚ) < polling.budget / polling.interval := by
        rw [lt_div_iff₀ positive]
        exact_mod_cast paused
      exact Nat.lt_ceil.mpr fewer

/-- With patience for more looks than there is time for, a loop comes to an end. -/
theorem isSome_of_patient (rounds : polling.Rounds start patience looks events result?)
    (passes : Event.TimePassesFrom start events) (pauses : 0 < polling.interval)
    (enough : ⌈(polling.budget : ℚ) / polling.interval⌉₊ < patience) : result?.isSome = true := by
  cases result? with
  | some result => rfl
  | none =>
      obtain ⟨exhausted, _⟩ := rounds.unsettled_of_stalled
      have few := rounds.length_le passes pauses
      omega

/-- A loop with any budget and patience at all takes a look, if the clock shows its start. -/
theorem looks_ne_nil (rounds : polling.Rounds start patience looks events result?)
    (timed : Event.Timed start events spans finish) (funded : 0 < polling.budget)
    (patient : patience ≠ 0) : looks ≠ [] := by
  cases rounds with
  | stalled => exact (patient rfl).elim
  | expired reading spent =>
      obtain rfl := timed.1
      simp only [Clock.millisBetween, Int.sub_self, Int.zero_tdiv] at spent
      omega
  | settled inTime settles => exact List.cons_ne_nil _ _
  | again inTime unsettled rest => exact List.cons_ne_nil _ _

/-! ## When the loop ends -/

theorem elapsed_nonneg (rounds : polling.Rounds start patience looks events result?)
    (started : start ≤ clock) (passes : Event.TimePassesFrom clock events) :
    ∀ look ∈ looks, 0 ≤ look.elapsed start := by
  induction rounds generalizing clock with
  | stalled => simp
  | expired => simp
  | @settled _ look verdict inTime settles =>
      have later : 0 ≤ look.reading - start := by
        have reached : clock ≤ look.reading := passes.1
        omega
      simpa [Look.elapsed, Clock.millisBetween] using Int.tdiv_nonneg later (by decide)
  | @again _ look looks events result? inTime unsettled rest ih =>
      obtain ⟨reached, passes⟩ := passes
      have later : 0 ≤ look.reading - start := by omega
      have further := ih (show start ≤ _ by omega) passes
      have here : 0 ≤ look.elapsed start := Int.tdiv_nonneg later (by decide)
      simpa using ⟨here, further⟩

theorem length_spans (rounds : polling.Rounds start patience looks events result?)
    (timed : Event.Timed clock events spans finish) : spans.length = looks.length := by
  induction rounds generalizing clock spans with
  | stalled => simp [timed.1]
  | expired => simp [timed.2.1]
  | settled =>
      obtain ⟨_, span, later, rfl, _, rfl, _⟩ := timed
      rfl
  | again inTime unsettled rest ih =>
      obtain ⟨_, span, later, rfl, _, timed⟩ := timed
      simp [ih timed]

/-- A loop whose looks take at most what their bounds allow, none of which reaches past the budget, ends at
most a pause after the budget is spent, and before the pause if a look settles the question.  A loop that
starts late ends no later than that either. -/
theorem finish_le {bound : Int → Int} {limit : Int}
    (rounds : polling.Rounds start patience looks events result?)
    (timed : Event.Timed clock events spans finish) (started : start ≤ clock)
    (pauses : 0 ≤ polling.interval) (fits : ∀ elapsed, elapsed + bound elapsed ≤ polling.budget)
    (prompt : Prompt bound start looks spans)
    (within : Clock.millisBetween start clock ≤ limit)
    (enough : polling.budget + polling.interval ≤ limit) :
    Clock.millisBetween start finish ≤ limit ∧
      (result?.join.isSome = true → Clock.millisBetween start finish ≤ polling.budget) := by
  induction rounds generalizing clock spans with
  | stalled =>
      obtain ⟨_, rfl⟩ := timed
      exact ⟨within, by simp⟩
  | expired =>
      obtain ⟨rfl, _, rfl⟩ := timed
      exact ⟨within, by simp⟩
  | @settled _ look verdict inTime settles =>
      obtain ⟨rfl, span, _, rfl, forwards, _, rfl⟩ := timed
      obtain ⟨short, _⟩ := List.forall₂_cons.mp prompt
      have ended := Clock.millisBetween_add_le started forwards short
      have allowed : Clock.millisBetween start look.reading + bound (look.elapsed start) ≤
          polling.budget := fits (look.elapsed start)
      constructor <;> omega
  | @again _ look looks events result? inTime unsettled rest ih =>
      obtain ⟨rfl, span, later, rfl, forwards, timed⟩ := timed
      obtain ⟨short, prompt⟩ := List.forall₂_cons.mp prompt
      have ended := Clock.millisBetween_add_le started forwards short
      have allowed : Clock.millisBetween start look.reading + bound (look.elapsed start) ≤
          polling.budget := fits (look.elapsed start)
      have answered : start ≤ look.reading + span := by omega
      have paused := Clock.millisBetween_add_millis answered
        (show 0 ≤ max 0 polling.interval by omega)
      exact ih timed (by omega) prompt (by omega)

end Rounds

/-! ## The timetable of a loop -/

/-- When looks begin and how long they may take, if the clock shows `start` when the loop starts and
`finish` when it ends.  Bounds and limits are in whole milliseconds, and what has elapsed is counted in
whole milliseconds too, as the loop reads it from the clock: a part of one does not count.  Spans are in
nanoseconds. -/
structure Timetable (budget interval : Int) (bound : Int → Int) (limit start finish : Int)
    (looks : List Look) (spans : List Int) (settled : Bool) : Prop where
  length_spans : spans.length = looks.length
  /-- There are as many looks at most as the budget has pauses, rounded up. -/
  length_le : looks.length ≤ ⌈(budget : ℚ) / interval⌉₊
  inTime : ∀ look ∈ looks, 0 ≤ look.elapsed start ∧ look.elapsed start < budget
  /-- The bound of a look is positive and does not reach past the deadline, but for the part of a
  millisecond that was not counted. -/
  bounded : ∀ look ∈ looks, 0 < bound (look.elapsed start) ∧
    look.elapsed start + bound (look.elapsed start) ≤ budget
  /-- If the looks keep to their bounds, the loop keeps to its limit, and to its budget if a look settles
  the question, in whole milliseconds. -/
  finish_le : Prompt bound start looks spans →
    Clock.millisBetween start finish ≤ limit ∧
      (settled = true → Clock.millisBetween start finish ≤ budget)

theorem Rounds.timetable {bound : Int → Int} {most limit : Int} {verdict? : Option Verdict}
    (rounds : polling.Rounds start patience looks events (some verdict?))
    (timed : Event.Timed start events spans finish) (pauses : 0 < polling.interval)
    (clipped : ∀ elapsed, bound elapsed = min most (polling.budget - elapsed)) (positive : 0 < most)
    (nonneg : 0 ≤ limit) (enough : polling.budget + polling.interval ≤ limit) :
    Timetable polling.budget polling.interval bound limit start finish looks spans verdict?.isSome where
  length_spans := rounds.length_spans timed
  length_le := rounds.length_le timed.timePassesFrom pauses
  inTime look member :=
    ⟨rounds.elapsed_nonneg (Int.le_refl start) timed.timePassesFrom look member,
      rounds.elapsed_lt look member⟩
  bounded look member := by
    have left := rounds.elapsed_lt look member
    rw [clipped]
    omega
  finish_le prompt := by
    have fits : ∀ elapsed, elapsed + bound elapsed ≤ polling.budget := by
      intro elapsed
      rw [clipped]
      omega
    have begun : Clock.millisBetween start start ≤ limit := by simpa [Clock.millisBetween] using nonneg
    simpa using rounds.finish_le timed (Int.le_refl start) (Int.le_of_lt pauses) fits prompt begun enough

namespace Timetable

variable {budget interval limit : Int} {bound : Int → Int} {settled : Bool}

/-- In exact time, a look begins before the deadline, and its bound reaches less than a millisecond past
it. -/
theorem look_lt (timetable : Timetable budget interval bound limit start finish looks spans settled) :
    ∀ look ∈ looks, look.reading - start < budget * 1000000 ∧
      look.reading - start + bound (look.elapsed start) * 1000000 < (budget + 1) * 1000000 := by
  intro look member
  obtain ⟨later, early⟩ := timetable.inTime look member
  obtain ⟨_, fits⟩ := timetable.bounded look member
  have begun : look.reading - start < (look.elapsed start + 1) * 1000000 :=
    (Clock.millisBetween_lt_iff (by omega)).mp (Int.lt_add_one_iff.mpr (Int.le_refl _))
  have before : look.reading - start < budget * 1000000 :=
    (Clock.millisBetween_lt_iff (by omega)).mp early
  omega

/-- In exact time, a loop whose looks keep to their bounds ends less than a millisecond after the limit,
and after the budget if a look settles the question. -/
theorem finish_lt (timetable : Timetable budget interval bound limit start finish looks spans settled)
    (funded : 0 ≤ budget) (nonneg : 0 ≤ limit) (prompt : Prompt bound start looks spans) :
    finish - start < (limit + 1) * 1000000 ∧
      (settled = true → finish - start < (budget + 1) * 1000000) := by
  obtain ⟨ended, settles⟩ := timetable.finish_le prompt
  refine ⟨(Clock.millisBetween_lt_iff (by omega)).mp (Int.lt_add_one_of_le ended), fun is => ?_⟩
  exact (Clock.millisBetween_lt_iff (by omega)).mp (Int.lt_add_one_of_le (settles is))

/-- Where no part of a millisecond passes, the bounds hold exactly. -/
theorem finish_le_of_dvd (timetable : Timetable budget interval bound limit start finish looks spans settled)
    (whole : 1000000 ∣ finish - start) (prompt : Prompt bound start looks spans) :
    finish - start ≤ limit * 1000000 ∧ (settled = true → finish - start ≤ budget * 1000000) := by
  obtain ⟨ended, settles⟩ := timetable.finish_le prompt
  have exactly := Clock.millisBetween_of_dvd whole
  refine ⟨by omega, fun is => ?_⟩
  have early := settles is
  omega

end Timetable

end Polling

end SandboxClient
