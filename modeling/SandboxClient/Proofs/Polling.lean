import SandboxClient.Proofs.Program.Time
import SandboxClient.Clock

/-!
# Polling

A polling loop looks again and again, with a pause after each look that settled nothing, until a look
settles the question or the time is up.  This file describes the behaviour of such a loop by the looks
it takes, and states what the looks of one loop have in common whatever is polled for.
-/

namespace SandboxClient

/-- What a polling loop asks for, how it reads the answers, how long it goes on and how long it pauses,
in milliseconds. -/
structure Polling (Verdict : Type) where
  budget : Int
  interval : Int
  /-- The request of a look, by the time that has elapsed. -/
  request : (elapsed : Int) → Request
  /-- What an answer settles, if anything. -/
  verdict? : Except Error Json → Option Verdict

/-- One look: the clock when it began, and the answer. -/
structure Look where
  reading : Int
  answer : Except Error Json

/-- The milliseconds between the start of a loop and a look. -/
def Look.elapsed (start : Int) (look : Look) : Int :=
  Clock.millisBetween start look.reading

theorem Clock.millisBetween_add_millis {start reading millis : Int} (reached : start ≤ reading)
    (nonneg : 0 ≤ millis) :
    millisBetween start (reading + millis * 1000000) = millisBetween start reading + millis := by
  have later : 0 ≤ reading + millis * 1000000 - start := by omega
  rw [millisBetween, millisBetween, Int.tdiv_eq_ediv_of_nonneg later,
    Int.tdiv_eq_ediv_of_nonneg (Int.sub_nonneg.mpr reached)]
  omega

/-- Fewer whole milliseconds have passed than some number exactly if less time has passed. -/
theorem Clock.millisBetween_lt_iff {start reading millis : Int} (positive : 0 < millis) :
    millisBetween start reading < millis ↔ reading - start < millis * 1000000 := by
  rw [millisBetween]
  rcases Int.le_total 0 (reading - start) with later | earlier
  · rw [Int.tdiv_eq_ediv_of_nonneg later]
    omega
  · have early : (reading - start).tdiv 1000000 ≤ 0 := by
      have opposite : 0 ≤ (-(reading - start)).tdiv 1000000 :=
        Int.tdiv_nonneg (by omega) (by omega)
      rw [Int.neg_tdiv] at opposite
      omega
    omega

theorem Clock.millisBetween_of_dvd {start reading : Int} (whole : 1000000 ∣ reading - start) :
    millisBetween start reading * 1000000 = reading - start :=
  Int.tdiv_mul_cancel whole

namespace Polling

variable {Verdict : Type} {polling : Polling Verdict} {start : Int} {patience : Nat}
  {looks : List Look} {events : List Event} {result? : Option (Option Verdict)}

/-- The call of a look. -/
def contact (polling : Polling Verdict) (start : Int) (look : Look) : Contact where
  request := polling.request (look.elapsed start)
  answer := look.answer

/-- The events of a look: the clock is read, and the call is made. -/
def lookEvents (polling : Polling Verdict) (start : Int) (look : Look) : List Event :=
  [⟨.now, look.reading⟩, ⟨.request (polling.request (look.elapsed start)), look.answer⟩]

/-- The events of looks that settle nothing, each of which is followed by a pause. -/
def missedEvents (polling : Polling Verdict) (start : Int) (looks : List Look) : List Event :=
  looks.flatMap fun look => polling.lookEvents start look ++ [⟨.sleep polling.interval, ()⟩]

/-- The rounds of a loop with some patience: its looks, its events and its result, which is no verdict
if the time ran out, and missing if the patience did. -/
inductive Rounds (polling : Polling Verdict) (start : Int) :
    (patience : Nat) → List Look → List Event → Option (Option Verdict) → Prop
  | stalled : Rounds polling start 0 [] [] none
  | expired {patience : Nat} (reading : Int)
      (spent : polling.budget ≤ Clock.millisBetween start reading) :
      Rounds polling start (patience + 1) [] [⟨.now, reading⟩] (some none)
  | settled {patience : Nat} {look : Look} {verdict : Verdict}
      (inTime : look.elapsed start < polling.budget)
      (settles : polling.verdict? look.answer = some verdict) :
      Rounds polling start (patience + 1) [look] (polling.lookEvents start look)
        (some (some verdict))
  | again {patience : Nat} {look : Look} {looks : List Look} {events : List Event}
      {result? : Option (Option Verdict)}
      (inTime : look.elapsed start < polling.budget)
      (unsettled : polling.verdict? look.answer = none)
      (rest : Rounds polling start patience looks events result?) :
      Rounds polling start (patience + 1) (look :: looks)
        (polling.lookEvents start look ++ ⟨.sleep polling.interval, ()⟩ :: events) result?

namespace Rounds

theorem elapsed_lt (rounds : polling.Rounds start patience looks events result?) :
    ∀ look ∈ looks, look.elapsed start < polling.budget := by
  induction rounds with
  | stalled => simp
  | expired => simp
  | settled inTime => simpa using inTime
  | again inTime unsettled rest ih => simpa using ⟨inTime, ih⟩

theorem contacts_eq (rounds : polling.Rounds start patience looks events result?) :
    Event.contacts events = looks.map (polling.contact start) := by
  induction rounds with
  | stalled => rfl
  | expired => rfl
  | settled => rfl
  | again inTime unsettled rest ih => simp [lookEvents, contact, ih]

/-- Every look of a loop is among its events: the clock is read, and then the call is made. -/
theorem exists_lookEvents (rounds : polling.Rounds start patience looks events result?) :
    ∀ look ∈ looks, ∃ before after, events = before ++ polling.lookEvents start look ++ after := by
  induction rounds with
  | stalled => simp
  | expired => simp
  | @settled _ look verdict inTime settles =>
      intro other member
      obtain rfl := List.mem_singleton.mp member
      exact ⟨[], [], by simp⟩
  | @again _ look looks events result? inTime unsettled rest ih =>
      intro other member
      rcases List.mem_cons.mp member with rfl | later
      · exact ⟨[], _, rfl⟩
      · obtain ⟨before, after, rfl⟩ := ih other later
        exact ⟨polling.lookEvents start look ++ ⟨.sleep polling.interval, ()⟩ :: before, after,
          by simp⟩

/-- A loop looks in vain for a while.  Then a look settles the question, or the time is up, or the
patience is. -/
theorem course_eq (rounds : polling.Rounds start patience looks events result?) :
    ∃ missed : List Look, (∀ look ∈ missed, polling.verdict? look.answer = none) ∧
      ((looks = missed ∧ looks.length = patience ∧ events = polling.missedEvents start missed ∧
          result? = none) ∨
        (looks = missed ∧ result? = some none ∧
          ∃ reading, polling.budget ≤ Clock.millisBetween start reading ∧
            events = polling.missedEvents start missed ++ [⟨.now, reading⟩]) ∨
        (∃ last verdict, looks = missed ++ [last] ∧ polling.verdict? last.answer = some verdict ∧
          events = polling.missedEvents start missed ++ polling.lookEvents start last ∧
          result? = some (some verdict))) := by
  induction rounds with
  | stalled => exact ⟨[], by simp, .inl ⟨rfl, rfl, rfl, rfl⟩⟩
  | expired reading spent => exact ⟨[], by simp, .inr (.inl ⟨rfl, rfl, reading, spent, rfl⟩)⟩
  | @settled _ look verdict inTime settles =>
      exact ⟨[], by simp, .inr (.inr ⟨look, verdict, rfl, settles, rfl, rfl⟩)⟩
  | @again _ look looks events result? inTime unsettled rest ih =>
      obtain ⟨missed, unseen, ended⟩ := ih
      refine ⟨look :: missed, by simpa using ⟨unsettled, unseen⟩, ?_⟩
      rcases ended with ⟨rfl, length_eq, rfl, rfl⟩ | ⟨rfl, rfl, reading, spent, rfl⟩ |
        ⟨last, verdict, rfl, settles, rfl, rfl⟩
      · exact .inl ⟨rfl, by simpa using length_eq, by simp [missedEvents], rfl⟩
      · exact .inr (.inl ⟨rfl, rfl, reading, spent, by simp [missedEvents]⟩)
      · exact .inr (.inr ⟨last, verdict, rfl, settles, by simp [missedEvents], rfl⟩)

theorem unsettled_of_mem_dropLast (rounds : polling.Rounds start patience looks events result?) :
    ∀ look ∈ looks.dropLast, polling.verdict? look.answer = none := by
  obtain ⟨missed, unseen, ⟨rfl, _⟩ | ⟨rfl, _⟩ | ⟨last, verdict, rfl, _⟩⟩ := rounds.course_eq
  · exact fun look member => unseen look (List.dropLast_subset _ member)
  · exact fun look member => unseen look (List.dropLast_subset _ member)
  · rw [List.dropLast_concat]
    exact unseen

/-- A loop that stalls has taken as many looks as its patience allows, all in vain. -/
theorem unsettled_of_stalled (rounds : polling.Rounds start patience looks events none) :
    looks.length = patience ∧ ∀ look ∈ looks, polling.verdict? look.answer = none := by
  obtain ⟨missed, unseen, ⟨rfl, length_eq, _⟩ | ⟨_, impossible, _⟩ | ⟨_, _, _, _, _, impossible⟩⟩ :=
    rounds.course_eq
  · exact ⟨length_eq, unseen⟩
  · cases impossible
  · cases impossible

/-- A loop that looks while time passes has time for the pauses between its looks. -/
theorem pauses_lt {least : Int} (rounds : polling.Rounds start patience looks events result?)
    (started : start ≤ least) (passes : Event.TimePassesFrom least events) :
    looks = [] ∨
      Clock.millisBetween start least + (looks.length - 1) * polling.interval < polling.budget := by
  induction rounds generalizing least with
  | stalled => exact .inl rfl
  | expired => exact .inl rfl
  | settled inTime settles =>
      have begun : Clock.millisBetween start least ≤ _ :=
        Int.tdiv_le_tdiv (by decide) (Int.sub_le_sub_right passes.1 start)
      right
      simpa using Int.lt_of_le_of_lt begun inTime
  | @again patience look looks events result? inTime unsettled rest ih =>
      -- the reading of the look is not behind, and the next one is a pause ahead of it
      obtain ⟨reached, passes⟩ := passes
      have begun : Clock.millisBetween start least ≤ look.elapsed start :=
        Int.tdiv_le_tdiv (by decide) (by omega)
      have ahead : look.reading ≤ look.reading + max 0 polling.interval * 1000000 := by omega
      rcases ih (Int.le_trans (Int.le_trans started reached) ahead) passes with rfl | within
      · right
        simpa using Int.lt_of_le_of_lt begun inTime
      · right
        have paused := Clock.millisBetween_add_millis (Int.le_trans started reached)
          (show 0 ≤ max 0 polling.interval by omega)
        have rounds : ((look :: looks).length - 1 : Int) * polling.interval =
            (looks.length - 1) * polling.interval + polling.interval := by
          rw [List.length_cons, Int.natCast_succ, Int.add_sub_cancel, Int.sub_mul, Int.one_mul,
            Int.sub_add_cancel]
        rw [paused] at within
        rw [rounds]
        rw [Look.elapsed] at begun
        omega

/-- While time passes, a loop that pauses for a second at least does not stall if its patience exceeds its
budget in seconds. -/
theorem not_stalled {seconds : Int} (rounds : polling.Rounds start patience looks events none)
    (passes : Event.TimePassesFrom start events) (budget_eq : polling.budget = seconds * 1000)
    (pauses : 1000 ≤ polling.interval) (enough : seconds.toNat < patience) : False := by
  obtain ⟨rfl, _⟩ := rounds.unsettled_of_stalled
  rcases rounds.pauses_lt (Int.le_refl start) passes with rfl | within
  · cases enough
  · have spent : (looks.length - 1 : Int) * 1000 ≤ (looks.length - 1) * polling.interval :=
      Int.mul_le_mul_of_nonneg_left pauses (by omega)
    have begun : Clock.millisBetween start start = 0 := by simp [Clock.millisBetween]
    omega

end Rounds

end Polling

end SandboxClient
