import SandboxClient.Proofs.Polling
import SandboxClient.Proofs.Sandbox.Calls
import SandboxClient.Detached.Supervision

/-!
# Probing a process

The wait for a detached process is a polling loop whose looks are probes.  A probe settles the question
if it tells that the process is gone, which a probe that fails does as well.
-/

namespace SandboxClient

namespace Detached

open Sandbox

variable {sandbox : Sandbox} {logger : Bytes} {task : Task} {start : Int} {patience : Nat}
  {events : List Event}

/-- Whether the answer to a probe tells that the process is gone: the probe failed, or it reported an
exit code other than zero. -/
def tellsGone (sandbox : Sandbox) (answer : Except Error Json) : Bool :=
  match sandbox.sessionOutcome answer with
  | .ok observation => isGone observation
  | .error _ => true

/-- The polling loop that waits for a process. -/
def probing (sandbox : Sandbox) (task : Task) : Polling Unit where
  budget := task.budget
  interval := task.interval
  request elapsed := sandbox.sessionRequest task.probe task.session
    (some (Clock.millisToSeconds (task.probeTimeout elapsed)))
  verdict? answer := if tellsGone sandbox answer then some () else none

/-- Waiting for a process makes the rounds of the polling loop, and answers whether a probe told that the
process is gone.  After a probe that did, the clock may be read once more. -/
theorem rounds_of_pollProcess (live : sandbox.IsLive) {result? : Option Bool}
    (admitted : (pollProcess sandbox logger task start patience).Admits events result?) :
    ∃ looks rounds after outcome?, Event.visible events = rounds ++ after ∧
      (probing sandbox task).Rounds start patience looks rounds outcome? ∧
      (∀ event ∈ after, event.action = .now ∧ outcome? = some (some ())) ∧
      result? = outcome?.map Option.isSome := by
  induction patience generalizing events with
  | zero =>
      obtain ⟨rfl, rfl⟩ := Program.admits_stalled_iff.mp admitted
      exact ⟨[], [], [], none, rfl, .stalled, by simp, rfl⟩
  | succ patience ih =>
      simp only [pollProcess, Clock.elapsedSince, bind, pure, Program.bind, Program.log, Program.sleep,
        outcome_runInSession live, Program.admits_act_iff] at admitted
      obtain ⟨reading, rest, rfl, admitted⟩ := admitted
      split at admitted
      next spent =>
        simp only [Program.admits_act_iff, Program.admits_done_iff] at admitted
        obtain ⟨_, _, rfl, rfl, rfl⟩ := admitted
        exact ⟨[], [⟨.now, reading⟩], [], some none, rfl, .expired reading spent, by simp, rfl⟩
      next left =>
        simp only [Program.admits_act_iff] at admitted
        obtain ⟨_, _, rfl, answer, rest, rfl, admitted⟩ := admitted
        let look : Look := ⟨reading, answer⟩
        have inTime : look.elapsed start < (probing sandbox task).budget := by
          simpa [Look.elapsed, look, probing] using left
        cases outcome_eq : sandbox.sessionOutcome answer with
        | error error =>
            have settles : (probing sandbox task).verdict? look.answer = some () := by
              simp [probing, tellsGone, look, outcome_eq]
            simp only [outcome_eq, Program.admits_act_iff, Program.admits_done_iff] at admitted
            obtain ⟨_, _, rfl, rfl, rfl⟩ := admitted
            exact ⟨[look], _, [], _, rfl, .settled inTime settles, by simp, rfl⟩
        | ok observation =>
            simp only [outcome_eq] at admitted
            split at admitted
            next gone =>
              have settles : (probing sandbox task).verdict? look.answer = some () := by
                simp [probing, tellsGone, look, outcome_eq, gone]
              simp only [Program.admits_act_iff, Program.admits_done_iff] at admitted
              obtain ⟨finished, _, rfl, _, _, rfl, rfl, rfl⟩ := admitted
              exact ⟨[look], _, [⟨.now, finished⟩], _, rfl, .settled inTime settles, by simp, rfl⟩
            next remains =>
              have unsettled : (probing sandbox task).verdict? look.answer = none := by
                simp [probing, tellsGone, look, outcome_eq, remains]
              obtain ⟨_, rest, rfl, later⟩ := Program.admits_act_iff.mp admitted
              obtain ⟨looks, rounds, after, outcome?, rest_eq, further, clockOnly, rfl⟩ :=
                ih later
              refine ⟨look :: looks, _, after, outcome?, ?_, .again inTime unsettled further,
                clockOnly, rfl⟩
              simp [Polling.lookEvents, probing, look, Look.elapsed, rest_eq]

theorem verdict?_eq_none_iff {answer : Except Error Json} :
    (probing sandbox task).verdict? answer = none ↔ tellsGone sandbox answer = false := by
  simp [probing]

theorem verdict?_eq_some_iff {answer : Except Error Json} :
    (probing sandbox task).verdict? answer = some () ↔ tellsGone sandbox answer = true := by
  simp [probing]

/-! ## The whole wait -/

/-- The visible events of a wait for a process, and whether the process was seen to be gone, which is
missing if the wait does not end. -/
inductive Wait (sandbox : Sandbox) (task : Task) (patience : Nat) : List Event → Option Bool → Prop
  | polled {start : Int} {looks : List Look} {rounds after : List Event}
      {outcome? : Option (Option Unit)}
      (looked : (probing sandbox task).Rounds start patience looks rounds outcome?)
      (clockOnly : ∀ event ∈ after, event.action = .now ∧ outcome? = some (some ())) :
      Wait sandbox task patience (⟨.now, start⟩ :: rounds ++ after) (outcome?.map Option.isSome)

theorem outcome_awaitProcess (live : sandbox.IsLive) (task : Task) :
    (awaitProcess patience sandbox logger task).outcome =
      .act .now fun start =>
        (pollProcess sandbox logger task start patience).bind fun completed =>
          .done (.ok completed) := by
  rw [awaitProcess, live.sandboxId, Attempt.outcome_ok_bind, Attempt.outcome_lift_bind]
  rfl

theorem wait_of_awaitProcess (live : sandbox.IsLive) {outcome? : Option (Except Error Bool)}
    (admitted : (awaitProcess patience sandbox logger task).outcome.Admits events outcome?) :
    ∃ completed?, Wait sandbox task patience (Event.visible events) completed? ∧
      outcome? = completed?.map .ok := by
  rw [outcome_awaitProcess live] at admitted
  obtain ⟨start, rest, rfl, waited⟩ := Program.admits_act_iff.mp admitted
  obtain ⟨completed?, polled, rfl⟩ := Program.admits_of_map waited
  obtain ⟨looks, rounds, after, outcome?, visible_eq, looked, clockOnly, rfl⟩ :=
    rounds_of_pollProcess live polled
  refine ⟨outcome?.map Option.isSome, ?_, rfl⟩
  rw [Event.visible_now, visible_eq, ← List.cons_append]
  exact .polled looked clockOnly

/-- A call is made right after a reading of the clock, at which less than a budget of milliseconds had
passed since the first reading. -/
def MadeWithin (budget : Int) (wait : List Event) (call : Contact) : Prop :=
  ∃ start between reading rest, wait = ⟨.now, start⟩ :: between ++ ⟨.now, reading⟩ :: call.event :: rest ∧
    Clock.millisBetween start reading < budget

/-- The last reading of the clock is one at which a budget of milliseconds had passed since the first. -/
def OutOfTime (budget : Int) (wait : List Event) : Prop :=
  ∃ start between reading, wait = ⟨.now, start⟩ :: between ++ [⟨.now, reading⟩] ∧
    budget ≤ Clock.millisBetween start reading

namespace Wait

variable {wait : List Event} {completed? : Option Bool}

theorem contacts_polled {looks : List Look} {rounds after : List Event}
    {outcome? : Option (Option Unit)}
    (looked : (probing sandbox task).Rounds start patience looks rounds outcome?)
    (clockOnly : ∀ event ∈ after, event.action = .now ∧ outcome? = some (some ())) :
    Event.contacts (⟨.now, start⟩ :: rounds ++ after) =
      looks.map ((probing sandbox task).contact start) := by
  have silent : Event.contacts after = [] := by
    apply Event.contacts_eq_nil_of_isQuiet
    intro event member
    rw [(clockOnly event member).1]
    trivial
  rw [Event.contacts_append, Event.contacts_now, silent, List.append_nil, looked.contacts_eq]

/-- The calls of a wait are probes of the process, each begun within the budget. -/
theorem probes (waited : Wait sandbox task patience wait completed?) :
    ∀ probe ∈ Event.contacts wait,
      (∃ seconds, probe.request = sandbox.sessionRequest task.probe task.session (some seconds)) ∧
        MadeWithin task.budget wait probe := by
  cases waited with
  | @polled start looks rounds after outcome? looked clockOnly =>
      rw [contacts_polled looked clockOnly]
      intro probe member
      obtain ⟨look, taken, rfl⟩ := List.mem_map.mp member
      obtain ⟨before, rest, rfl⟩ := looked.exists_lookEvents look taken
      refine ⟨⟨_, rfl⟩, start, before, look.reading, rest ++ after, ?_, looked.elapsed_lt look taken⟩
      simp [Polling.lookEvents, Polling.contact, Contact.event]

/-- No probe follows one that tells that the process is gone. -/
theorem remain_of_dropLast (waited : Wait sandbox task patience wait completed?) :
    ∀ probe ∈ (Event.contacts wait).dropLast, tellsGone sandbox probe.answer = false := by
  cases waited with
  | polled looked clockOnly =>
      rw [contacts_polled looked clockOnly, ← List.map_dropLast]
      intro probe member
      obtain ⟨look, early, rfl⟩ := List.mem_map.mp member
      exact verdict?_eq_none_iff.mp (looked.unsettled_of_mem_dropLast look early)

/-- A wait that does not end has seen no probe that tells that the process is gone. -/
theorem of_endless (waited : Wait sandbox task patience wait none) :
    (Event.contacts wait).length = patience ∧
      ∀ probe ∈ Event.contacts wait, tellsGone sandbox probe.answer = false := by
  generalize completed_eq : none = completed? at waited
  cases waited with
  | polled looked clockOnly =>
      obtain rfl := Option.map_eq_none_iff.mp completed_eq.symm
      obtain ⟨length_eq, unsettled⟩ := looked.unsettled_of_stalled
      rw [contacts_polled looked clockOnly, List.length_map]
      refine ⟨length_eq, ?_⟩
      intro probe member
      obtain ⟨look, taken, rfl⟩ := List.mem_map.mp member
      exact verdict?_eq_none_iff.mp (unsettled look taken)

/-- A wait ends because a probe tells that the process is gone, or because the budget is spent and no
probe did. -/
theorem of_ended {completed : Bool} (waited : Wait sandbox task patience wait (some completed)) :
    (completed = true ∧ ∃ probe ∈ Event.contacts wait, tellsGone sandbox probe.answer = true) ∨
      (completed = false ∧ OutOfTime task.budget wait ∧
        ∀ probe ∈ Event.contacts wait, tellsGone sandbox probe.answer = false) := by
  generalize completed_eq : some completed = completed? at waited
  cases waited with
  | @polled start looks rounds after outcome? looked clockOnly =>
      obtain ⟨verdict?, rfl, rfl⟩ := Option.map_eq_some_iff.mp completed_eq.symm
      rw [contacts_polled looked clockOnly]
      obtain ⟨missed, unseen, ⟨_, _, _, impossible⟩ | ⟨rfl, ended, reading, spent, rfl⟩ |
        ⟨last, _, rfl, settles, _, ended⟩⟩ := looked.course_eq
      · cases impossible
      · cases ended
        obtain rfl : after = [] := by
          apply List.eq_nil_iff_forall_not_mem.mpr
          intro event member
          cases (clockOnly event member).2
        refine .inr ⟨rfl, ⟨start, _, reading, List.append_nil _, spent⟩, ?_⟩
        intro probe member
        obtain ⟨look, taken, rfl⟩ := List.mem_map.mp member
        exact verdict?_eq_none_iff.mp (unseen look taken)
      · cases ended
        refine .inl ⟨rfl, (probing sandbox task).contact start last, by simp, ?_⟩
        exact verdict?_eq_some_iff.mp settles

end Wait

end Detached

end SandboxClient
