import SandboxClient.Proofs.Decimal.Growth
import SandboxClient.Proofs.Retry.Trials

/-!
# Delays

How the delays of a policy develop, and what is left of them when they are converted to milliseconds.  They
have no limit, so a product may leave the range of 64-bit integers.  Until then no wait is negative, and
with a multiplier from one on none is shorter than the one before.
-/

namespace SandboxClient

/-- What may be drawn below a bound: a number that is not negative and less than the bound, unless it is
zero.  Its fraction is dropped. -/
def DrawnBelow (bound : Float) (answer : Int) : Prop :=
  ∀ limit, (Binary64.ofFloat bound).number? = some limit →
    ∃ sample number, (Binary64.ofFloat sample).number? = some number ∧ 0 ≤ number ∧
      (number = 0 ∨ number < limit) ∧ answer = truncateToInt64 sample

/-- All draws keep to their bounds. -/
def World.DrawsFairly {State : Type} (world : World State) : Prop :=
  ∀ bound state, DrawnBelow bound (world.answer (.draw bound) state).1

theorem DrawnBelow.nonneg {bound : Float} {answer : Int} {limit : ℚ} (drawn : DrawnBelow bound answer)
    (limit_eq : (Binary64.ofFloat bound).number? = some limit) (moderate : limit ≤ 2 ^ 63) :
    0 ≤ answer := by
  obtain ⟨sample, number, number_eq, nonneg, below, rfl⟩ := drawn limit limit_eq
  refine truncateToInt64_nonneg number_eq nonneg ?_
  rcases below with rfl | below
  · norm_num
  · exact below.trans_le moderate

namespace Backoff

variable {policy : Backoff}

/-- The delay before the retry at a place, in double arithmetic. -/
def delay (policy : Backoff) : (place : Nat) → Float
  | 0 => policy.firstDelay
  | place + 1 => policy.delay place * policy.multiplier

/-- Whether integers of 64 bits can hold what is waited for at a place: the delay, and with jitter all that
may be drawn. -/
def Holds (policy : Backoff) (place : Nat) : Prop :=
  Fits (policy.delay place) ∧
    (policy.jitter = true →
      ∃ limit, (Binary64.ofFloat (2 * policy.delay place)).number? = some limit ∧ limit ≤ 2 ^ 63)

theorem validate_eq_ok_iff :
    policy.validate = .ok () ↔
      1 ≤ policy.maxAttempts ∧ 0 ≤ policy.initialDelay ∧ 0 < policy.multiplier := by
  rw [validate]
  split
  · simp; omega
  split
  · simp; omega
  split
  · simp_all
  · simp_all

theorem waits_eq_map (count place : Nat) :
    waits policy.multiplier count (policy.delay place) =
      (List.range count).map fun index => roundToInt64 (policy.delay (place + index)) := by
  induction count generalizing place with
  | zero => rfl
  | succ count ih =>
      have next : policy.delay place * policy.multiplier = policy.delay (place + 1) := rfl
      rw [waits, next, ih, List.range_succ_eq_map]
      simp [Nat.add_assoc, Nat.add_comm 1]

theorem schedule_eq_map (valid : policy.validate = .ok ()) :
    policy.schedule = .ok ((List.range (policy.maxAttempts - 1).toNat).map fun place =>
      roundToInt64 (policy.delay place)) := by
  have first : policy.firstDelay = policy.delay 0 := rfl
  rw [schedule_of_validate valid, first, waits_eq_map]
  simp only [Nat.zero_add]

/-! ## Delay by delay -/

theorem isUnsigned_delay (valid : policy.validate = .ok ()) (place : Nat) :
    IsUnsigned (policy.delay place) := by
  obtain ⟨_, nonneg, positive⟩ := validate_eq_ok_iff.mp valid
  induction place with
  | zero => exact (isSizable_ofInt nonneg).unsigned
  | succ place ih => exact ih.mul positive

theorem isSizable_delay (valid : policy.validate = .ok ()) (large : 1 ≤ policy.multiplier)
    (place : Nat) : IsSizable (policy.delay place) := by
  obtain ⟨_, nonneg, _⟩ := validate_eq_ok_iff.mp valid
  induction place with
  | zero => exact isSizable_ofInt nonneg
  | succ place ih => exact (ih.mul large).1

theorem bits_delay_le (valid : policy.validate = .ok ()) (large : 1 ≤ policy.multiplier)
    {place later : Nat} (le : place ≤ later) :
    min (policy.delay place).toBits.toNat (2047 * 2 ^ 52) ≤ (policy.delay later).toBits.toNat := by
  induction later, le using Nat.le_induction with
  | base => exact Nat.min_le_left _ _
  | succ later le ih =>
      have step := ((isSizable_delay valid large later).mul large).2
      have next : policy.delay (later + 1) = policy.delay later * policy.multiplier := rfl
      rw [next]
      omega

/-- Delays that grow do not come back into range. -/
theorem fits_delay_of_le (valid : policy.validate = .ok ()) (large : 1 ≤ policy.multiplier)
    {place later : Nat} (le : place ≤ later) (fits : Fits (policy.delay later)) :
    Fits (policy.delay place) ∧
      roundToInt64 (policy.delay place) ≤ roundToInt64 (policy.delay later) := by
  have short := (fits_iff (isUnsigned_delay valid later)).mp fits
  have bits_le : (policy.delay place).toBits.toNat ≤ (policy.delay later).toBits.toNat := by
    have bits := bits_delay_le valid large le
    rw [wordBits] at short
    omega
  exact ⟨(fits_iff (isUnsigned_delay valid place)).mpr (Nat.lt_of_le_of_lt bits_le short),
    roundToInt64_le short bits_le⟩

/-- What holds of a schedule as long as integers of 64 bits can hold the delays; beyond, the least of them
stands for a delay. -/
structure SoundInRange (policy : Backoff) (entries : List Int) : Prop where
  length_eq : (entries.length : Int) = policy.maxAttempts - 1
  nonneg {place : Nat} {entry : Int} (found : entries[place]? = some entry)
    (fits : Fits (policy.delay place)) : 0 ≤ entry
  beyond {place : Nat} {entry : Int} (found : entries[place]? = some entry)
    (large : ¬ Fits (policy.delay place)) : entry = -2 ^ 63
  monotone (growing : 1 ≤ policy.multiplier) {place later : Nat} {entry next : Int}
    (le : place ≤ later) (found : entries[place]? = some entry) (foundNext : entries[later]? = some next)
    (fits : Fits (policy.delay later)) : Fits (policy.delay place) ∧ entry ≤ next

theorem soundInRange_map (valid : policy.validate = .ok ()) :
    policy.SoundInRange ((List.range (policy.maxAttempts - 1).toNat).map fun place =>
      roundToInt64 (policy.delay place)) := by
  have entry_eq : ∀ {place entry}, ((List.range (policy.maxAttempts - 1).toNat).map fun place =>
      roundToInt64 (policy.delay place))[place]? = some entry →
      roundToInt64 (policy.delay place) = entry := by
    intro place entry found
    obtain ⟨_, ranged, rfl⟩ := Option.map_eq_some_iff.mp (List.getElem?_map ▸ found)
    rw [(List.getElem?_eq_some_iff.mp ranged).2.symm, List.getElem_range]
  constructor
  case length_eq =>
    have positive := one_le_of_validate valid
    rw [List.length_map, List.length_range]
    omega
  case nonneg =>
    intro place entry found fits
    rw [← entry_eq found]
    exact roundToInt64_nonneg (isUnsigned_delay valid place) fits
  case beyond =>
    intro place entry found large
    rw [← entry_eq found]
    exact roundToInt64_of_not_fits (isUnsigned_delay valid place) large
  case monotone =>
    intro growing place later entry next le found foundNext fits
    rw [← entry_eq found, ← entry_eq foundNext]
    exact fits_delay_of_le valid growing le fits

end Backoff

namespace Retry

variable {policy : Backoff} {events : List Event} {waits : List Int}

theorem Waited.source {delay : Float} (waited : Waited policy events delay waits) {place index : Nat}
    (delay_eq : delay = policy.delay place) {wait : Int} (found : waits[index]? = some wait) :
    wait = roundToInt64 (policy.delay (place + index)) ∨
      policy.jitter = true ∧ ⟨.draw (2 * policy.delay (place + index)), wait⟩ ∈ events := by
  induction waited generalizing place index with
  | nil delay => simp at found
  | cons source later ih =>
      subst delay_eq
      cases index with
      | zero =>
          obtain rfl := Option.some_inj.mp found
          exact source
      | succ index =>
          have next := ih (rfl : _ = policy.delay (place + 1)) found
          rwa [Nat.add_assoc, Nat.add_comm 1] at next

end Retry

section
variable {State Result Outside : Type}

/-- As long as integers of 64 bits can hold the delays of a valid policy, no entry of its schedule is negative
and, with a multiplier from one on, none is less than the one before.  A delay that they cannot hold is
turned into the least of them.  A retry waits by the schedule, or with jitter by fair draws, for no negative
time either as long as they can hold what may be drawn. -/
theorem retry_waits_soundly_in_range (policy : Backoff) (valid : policy.validate = .ok ())
    (logger? : Option Bytes) (operation : State → Program (Except Error Result × State)) (state : State)
    (world : World Outside) (outside : Outside) :
    let run := (retry policy logger? operation state).run world outside
    ∃ entries, policy.schedule = .ok entries ∧ policy.SoundInRange entries ∧
      ∃ waits tries, Retry.Trials operation policy.jitter waits state tries run.events run.result? ∧
        (policy.jitter = false → waits = entries.take (tries.length - 1)) ∧
        (world.DrawsFairly →
          ∀ place wait, waits[place]? = some wait → policy.Holds place → 0 ≤ wait) := by
  intro run
  have admitted : (retry policy logger? operation state).Admits run.events run.result? :=
    Program.admits_run world _ outside
  rw [retry_of_validate valid] at admitted
  obtain ⟨waits, tries, trials, _, _, scheduled, waited⟩ := Retry.timed_trials_of_attempts admitted
  have schedule_eq := Backoff.schedule_eq_map valid
  refine ⟨_, schedule_eq, Backoff.soundInRange_map valid, waits, tries, trials, ?_, ?_⟩
  · intro plain
    rw [Backoff.schedule_of_validate valid] at schedule_eq
    rw [scheduled plain, Except.ok.inj schedule_eq]
  · rintro fair place wait found ⟨fits, moderate⟩
    have source := waited.source (show policy.firstDelay = policy.delay 0 from rfl) found
    rw [Nat.zero_add] at source
    rcases source with rfl | ⟨jittered, draw⟩
    · exact roundToInt64_nonneg (Backoff.isUnsigned_delay valid place) fits
    · obtain ⟨limit, limit_eq, small⟩ := moderate jittered
      obtain ⟨before, answer_eq⟩ := Program.answer_of_mem_run draw
      have drawn := fair (2 * policy.delay place) before
      rw [← answer_eq] at drawn
      exact drawn.nonneg limit_eq small

/-- Jitter around ten and twenty milliseconds in a world where every draw is the least one. -/
theorem retry_waits_soundly_in_range_rehearsed :
    let policy : Backoff := { maxAttempts := 3, initialDelay := 10, multiplier := 2, jitter := true }
    let operation := fun state : Unit =>
      (.done (.error (.failure (utf8 "refused")), state) : Program (Except Error Unit × Unit))
    let run := (retry policy none operation ()).run Rehearsal.world ⟨[], 0⟩
    (policy.validate = .ok () ∧ Rehearsal.world.DrawsFairly ∧ policy.Holds 0) ∧
      ∃ entries, policy.schedule = .ok entries ∧ policy.SoundInRange entries ∧
        ∃ waits tries, Retry.Trials operation policy.jitter waits () tries run.events run.result? ∧
          (policy.jitter = false → waits = entries.take (tries.length - 1)) ∧
          (Rehearsal.world.DrawsFairly →
            ∀ place wait, waits[place]? = some wait → policy.Holds place → 0 ≤ wait) := by
  intro policy operation run
  have positive : (0 : Float) < 2 := by decide
  have valid : policy.validate = .ok () := by simp [Backoff.validate, policy, positive]
  have fair : Rehearsal.world.DrawsFairly := by
    rintro bound state limit -
    have zero : Binary64.ofFloat 0 = .finite false 0 (-1074) := by decide
    have cut : truncateToInt64 0 = 0 := by decide +kernel
    refine ⟨0, 0, ?_, le_refl 0, .inl rfl, cut.symm⟩
    rw [zero, Binary64.number?]
    simp
  have ten : Binary64.ofFloat (policy.delay 0) = .finite false (10 * 2 ^ 49) (-49) := by decide
  have twenty : Binary64.ofFloat (2 * policy.delay 0) = .finite false (10 * 2 ^ 49) (-48) := by decide
  have holds : policy.Holds 0 := by
    rw [Backoff.Holds, Fits, ten, twenty]
    exact ⟨⟨_, rfl, by norm_num⟩, fun _ => ⟨_, rfl, by norm_num⟩⟩
  exact ⟨⟨valid, fair, holds⟩,
    retry_waits_soundly_in_range policy valid none operation () Rehearsal.world _⟩

/-- Two to the sixty-second milliseconds are doubled, and a valid policy schedules a negative wait after
them, which a retry is asked to sleep for. -/
theorem schedule_leaves_range :
    let policy : Backoff := { maxAttempts := 3, initialDelay := 2 ^ 62, multiplier := 2 }
    let operation := fun state : Unit =>
      (.done (.error (.failure (utf8 "refused")), state) : Program (Except Error Unit × Unit))
    let run := (retry policy none operation ()).run Rehearsal.world ⟨[], 0⟩
    policy.validate = .ok () ∧ 1 ≤ policy.multiplier ∧ policy.schedule = .ok [2 ^ 62, -2 ^ 63] ∧
      run.events = [⟨.sleep (2 ^ 62), ()⟩, ⟨.sleep (-2 ^ 63), ()⟩] := by
  intro policy operation run
  have positive : (0 : Float) < 2 := by decide
  have valid : policy.validate = .ok () := by simp [Backoff.validate, policy, positive]
  refine ⟨valid, by decide, ?_, ?_⟩
  · rw [Backoff.schedule_of_validate valid]
    exact congrArg Except.ok (by decide)
  · have first : roundToInt64 policy.firstDelay = 2 ^ 62 := by decide
    have second : roundToInt64 (policy.firstDelay * policy.multiplier) = -2 ^ 63 := by decide
    simp only [run, retry_of_validate valid none operation ()]
    rw [← first, ← second]
    rfl

end

end SandboxClient
