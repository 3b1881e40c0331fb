import SandboxClient.Proofs.Program.Rehearsal
import SandboxClient.Proofs.Sandbox.Lifecycle

/-!
# What shows a sandbox alive

A start that makes a handle alive, and a question for its liveness that is answered with yes, both rest on
the answer to their last call.  That answer reports success.  It need not say that the sandbox is alive,
however: an answer that says nothing about it by a boolean is taken for a yes.
-/

namespace SandboxClient

/-- The liveness of a status is what a boolean member says, and alive if there is none. -/
theorem SandboxStatus.isAlive_of_ofJson {value : Json} {status : SandboxStatus}
    (read : SandboxStatus.ofJson value = .ok status) :
    status.isAlive = match value.member? (utf8 "is_alive") with
      | some (.boolean alive) => alive
      | _ => true := by
  rw [SandboxStatus.ofJson] at read
  split at read
  next =>
    obtain ⟨_, _, read⟩ := Except.exists_of_bind_eq_ok read
    obtain ⟨_, _, read⟩ := Except.exists_of_bind_eq_ok read
    obtain ⟨_, _, read⟩ := Except.exists_of_bind_eq_ok read
    obtain ⟨_, _, read⟩ := Except.exists_of_bind_eq_ok read
    obtain ⟨_, _, read⟩ := Except.exists_of_bind_eq_ok read
    cases read
    rfl
  next other =>
    cases read
    cases value with
    | object members => exact (other rfl).elim
    | _ => rfl

namespace Sandbox

variable {sandbox after : Sandbox} {patience : Nat} {events : List Event}

/-- A success whose result is an object with the boolean that says alive. -/
def SaysAlive (answer : Except Error Json) : Prop :=
  ∃ response result, answer = .ok response ∧ Envelope.isSuccess response = true ∧
    response.member? (utf8 "result") = some result ∧ result.isObject = true ∧
    result.member? (utf8 "is_alive") = some (.boolean true)

/-- A success without a boolean on liveness: there is no result, it is no object, it has no such member, or
the member is of another type. -/
def SaysNothing (answer : Except Error Json) : Prop :=
  ∃ response, answer = .ok response ∧ Envelope.isSuccess response = true ∧
    ∀ result alive, response.member? (utf8 "result") = some result →
      result.member? (utf8 "is_alive") ≠ some (.boolean alive)

/-- A missing result and one that is null have no members, and nor has what stands in for them. -/
theorem member?_result (response : Json) (key : Bytes) :
    (Envelope.result response).member? key =
      (response.member? (utf8 "result")).bind fun result => result.member? key := by
  rw [Envelope.result]
  split
  next missing =>
    rw [missing]
    rfl
  next null =>
    rw [null]
    rfl
  next result _ present => rw [present, Option.bind_some]

theorem says_of_alive {response : Json} {status : SandboxStatus}
    (success : Envelope.isSuccess response = true)
    (read : SandboxStatus.ofJson (Envelope.result response) = .ok status)
    (alive : status.isAlive = true) : SaysAlive (.ok response) ∨ SaysNothing (.ok response) := by
  rw [SandboxStatus.isAlive_of_ofJson read, member?_result] at alive
  cases result_eq : response.member? (utf8 "result") with
  | none => exact .inr ⟨response, rfl, success, by simp [result_eq]⟩
  | some result =>
      rw [result_eq, Option.bind_some] at alive
      split at alive
      next shown member_eq =>
        have object : result.isObject = true := by
          cases result with
          | object members => rfl
          | _ => cases member_eq
        exact .inl ⟨response, result, rfl, success, result_eq, object, alive ▸ member_eq⟩
      next unshown =>
        refine .inr ⟨response, rfl, success, ?_⟩
        rintro other shown other_eq member_eq
        rw [result_eq] at other_eq
        cases other_eq
        exact unshown shown member_eq

/-! ## Looks that a handle relies on -/

theorem says_of_aliveStatus? {answer : Except Error Json} {status : SandboxStatus}
    (seen : aliveStatus? answer = some status) : SaysAlive answer ∨ SaysNothing answer := by
  cases answer with
  | error error => cases seen
  | ok response =>
      rw [aliveStatus?] at seen
      split at seen
      next success =>
        split at seen
        next status' read =>
          split at seen
          next alive => exact says_of_alive success read alive
          next => cases seen
        next => cases seen
      next => cases seen

/-- A start that makes a handle alive has looked at the sandbox that it leaves there, and last of all. -/
theorem last_look_of_start {outcome : Except Error Unit} (idle : sandbox.state ≠ .alive)
    (admitted : (sandbox.start patience).Admits events (some (outcome, after)))
    (alive : after.state = .alive) :
    ∃ look timeout, (Event.contacts events).getLast? = some look ∧
      look.request = sandbox.statusRequest after.id timeout ∧
      (SaysAlive look.answer ∨ SaysNothing look.answer) := by
  rw [start, if_neg idle] at admitted
  split at admitted
  next =>
    obtain ⟨_, equal⟩ := Program.admits_done_iff.mp admitted
    cases equal
    exact (idle alive).elim
  next =>
    have course := startCourse_of_launch admitted
    rw [← Event.contacts_visible]
    generalize result_eq : some (outcome, after) = result? at course
    generalize Event.visible events = visible at course
    cases course with
    | refused answer error refuses =>
        cases result_eq
        cases alive
    | @granted answer start placement looks rounds verdict? grants watched =>
        obtain ⟨verdict, rfl, ended⟩ := Option.map_eq_some_iff.mp result_eq.symm
        cases verdict with
        | none =>
            cases ended
            cases alive
        | some status =>
            cases ended
            -- the loop came to a verdict, so it neither stalled nor ran out of time
            obtain ⟨missed, _, ⟨_, _, _, impossible⟩ | ⟨_, impossible, _⟩ |
              ⟨last, verdict, rfl, settles, _, ended⟩⟩ := watched.course_eq
            · cases impossible
            · cases impossible
            · refine ⟨(sandbox.watching placement.id).contact start last, _, ?_, rfl,
                says_of_aliveStatus? settles⟩
              rw [Event.contacts_append, watched.contacts_eq, List.map_append, ← List.append_assoc]
              exact List.getLast?_concat

theorem look_of_liveness {liveness : Liveness}
    (admitted : sandbox.liveness.outcome.Admits events (some (.ok liveness)))
    (alive : liveness.isAlive = true) :
    ∃ answer, Event.contacts events = [⟨sandbox.statusRequest sandbox.id defaultTimeout, answer⟩] ∧
      (SaysAlive answer ∨ SaysNothing answer) := by
  rw [Sandbox.liveness, status, requireId] at admitted
  split at admitted
  next => cases (Program.admits_done_iff.mp admitted).2
  next =>
    rw [Attempt.outcome_bind, Attempt.outcome_ok_bind, outcome_fetchStatus] at admitted
    simp only [Program.bind, Program.admits_act_iff] at admitted
    obtain ⟨answer, rest, rfl, follows⟩ := admitted
    cases read : sandbox.statusOutcome sandbox.id answer with
    | error error =>
        rw [read] at follows
        cases (Program.admits_done_iff.mp follows).2
    | ok status =>
        rw [read] at follows
        obtain ⟨rfl, equal⟩ := Program.admits_done_iff.mp follows
        cases equal
        have seen : aliveStatus? answer = some status := by
          rw [aliveStatus?_eq sandbox sandbox.id, read]
          exact if_pos alive
        exact ⟨answer, rfl, says_of_aliveStatus? seen⟩

/-- Whatever the service and the clock do, a handle becomes alive, or is said to be alive, only by an
answer about its sandbox that reports success and that says alive or nothing at all on the matter. -/
theorem aliveness_rests_on_answer (sandbox : Sandbox) {State : Type} (world : World State)
    (patience : Nat) (state : State) :
    (let run := (sandbox.start patience).run world state
      ∀ outcome after, run.result? = some (outcome, after) → sandbox.state ≠ .alive →
        after.state = .alive → ∃ look timeout, (Event.contacts run.events).getLast? = some look ∧
          look.request = sandbox.statusRequest after.id timeout ∧
          (SaysAlive look.answer ∨ SaysNothing look.answer)) ∧
    (let run := sandbox.liveness.outcome.run world state
      ∀ liveness, run.result? = some (.ok liveness) → liveness.isAlive = true →
        ∃ answer, Event.contacts run.events =
            [⟨sandbox.statusRequest sandbox.id defaultTimeout, answer⟩] ∧
          (SaysAlive answer ∨ SaysNothing answer)) := by
  constructor
  · intro run outcome after ended idle alive
    have admitted : (sandbox.start patience).Admits run.events run.result? :=
      Program.admits_run world _ state
    rw [ended] at admitted
    exact last_look_of_start idle admitted alive
  · intro run liveness ended alive
    have admitted : sandbox.liveness.outcome.Admits run.events run.result? :=
      Program.admits_run world _ state
    rw [ended] at admitted
    exact look_of_liveness admitted alive

/-- A sandbox that is pending at the first look and alive at the second, and then asked whether it is. -/
theorem aliveness_rests_on_answer_rehearsed :
    let sandbox : Sandbox := { config := { cpus := .finite false 1 0 }, routeKey := [] }
    let granted := Rehearsal.success [(utf8 "sandbox_id", .string (utf8 "sb-1"))]
    let pending := Rehearsal.success [(utf8 "is_alive", .boolean false)]
    let alive := Rehearsal.success [(utf8 "is_alive", .boolean true)]
    let run := (sandbox.start 3).run Rehearsal.world ⟨[granted, pending, alive], 0⟩
    let started : Sandbox := { sandbox with state := .alive, id := utf8 "sb-1" }
    let asked := started.liveness.outcome.run Rehearsal.world ⟨[alive], 0⟩
    (run.result? = some (.ok (), started) ∧ sandbox.state ≠ .alive ∧ started.state = .alive) ∧
      (∃ look timeout, (Event.contacts run.events).getLast? = some look ∧
        look.request = sandbox.statusRequest (utf8 "sb-1") timeout ∧
        (SaysAlive look.answer ∨ SaysNothing look.answer)) ∧
      asked.result? = some (.ok { isAlive := true }) ∧
      ∃ answer, Event.contacts asked.events =
          [⟨started.statusRequest started.id defaultTimeout, answer⟩] ∧
        (SaysAlive answer ∨ SaysNothing answer) := by
  intro sandbox granted pending alive run started asked
  have idle : sandbox.state ≠ .alive := by decide
  have ended : run.result? = some (.ok (), started) := by rfl
  have answered : asked.result? = some (.ok { isAlive := true }) := by rfl
  have starting := (aliveness_rests_on_answer sandbox Rehearsal.world 3
    ⟨[granted, pending, alive], 0⟩).1
  have asking := (aliveness_rests_on_answer started Rehearsal.world 0 ⟨[alive], 0⟩).2
  exact ⟨⟨ended, idle, rfl⟩, starting _ _ ended idle rfl, answered, asking _ answered rfl⟩

/-- A success with a null for its result starts a handle, and later still passes for a yes. -/
theorem alive_by_silence :
    let sandbox : Sandbox := { config := { cpus := .finite false 1 0 }, routeKey := [] }
    let granted := Rehearsal.success [(utf8 "sandbox_id", .string (utf8 "sb-1"))]
    let silence : Except Error Json :=
      .ok (.object [(utf8 "result", .null), (utf8 "status", .string (utf8 "Success"))])
    let run := (sandbox.start 1).run Rehearsal.world ⟨[granted, silence], 0⟩
    let started : Sandbox := { sandbox with state := .alive, id := utf8 "sb-1" }
    let asked := started.liveness.outcome.run Rehearsal.world ⟨[silence], 0⟩
    (sandbox.config.validate = .ok () ∧ sandbox.state ≠ .alive ∧ ¬ SaysAlive silence) ∧
      (run.result? = some (.ok (), started) ∧
        (Event.contacts run.events).map Contact.answer = [granted, silence]) ∧
      asked.result? = some (.ok { isAlive := true }) ∧
      (Event.contacts asked.events).map Contact.answer = [silence] := by
  intro sandbox granted silence run started asked
  have untold : ¬ SaysAlive silence := by
    rintro ⟨response, result, equal, _, result_eq, object, _⟩
    obtain rfl := Except.ok.inj equal
    have null : some Json.null = some result := result_eq
    cases null
    cases object
  exact ⟨⟨by rfl, by decide, untold⟩, ⟨by rfl, by rfl⟩, by rfl, by rfl⟩

end Sandbox

end SandboxClient
