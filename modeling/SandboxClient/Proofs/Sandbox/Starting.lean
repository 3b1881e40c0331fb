import SandboxClient.Proofs.Polling
import SandboxClient.Proofs.Sandbox.Calls
import SandboxClient.Sandbox.Lifecycle

/-!
# Starting a sandbox

The course of a start: one request for a sandbox and, if it is granted, a pause and then a polling loop
whose looks ask for the status of that very sandbox.  A look settles the question if it shows the
sandbox alive; a look that fails and a look that shows it not alive are treated alike.
-/

namespace SandboxClient

namespace Sandbox

variable {sandbox : Sandbox} {id : Bytes} {start : Int} {patience : Nat} {events : List Event}

/-! ## Reading the answers -/

/-- The placement that an answer to the request for a sandbox grants: a success whose result has a
nonempty text as its identity. -/
def grantedPlacement? : (answer : Except Error Json) → Option Placement
  | .error _ => none
  | .ok response =>
    if Envelope.isSuccess response then
      let result := Envelope.result response
      match result.member? (utf8 "sandbox_id") with
      | some (.string id) =>
        if id = [] then none
        else some {
          id
          hostName := result.text (utf8 "host_name")
          hostAddress := result.text (utf8 "host_ip") }
      | _ => none
    else none

/-- The status in an answer that shows a sandbox alive: a success whose result reads as alive. -/
def aliveStatus? : (answer : Except Error Json) → Option SandboxStatus
  | .error _ => none
  | .ok response =>
    if Envelope.isSuccess response then
      match SandboxStatus.ofJson (Envelope.result response) with
      | .ok status => if status.isAlive then some status else none
      | .error _ => none
    else none

theorem unwrap_of_isSuccess {operation url : Bytes} {response : Json}
    (success : Envelope.isSuccess response = true) :
    Envelope.unwrap operation url response = .ok (Envelope.result response) := by
  simp [Envelope.unwrap, success]

theorem unwrap_of_not_isSuccess {response : Json} (operation url : Bytes)
    (failure : Envelope.isSuccess response = false) :
    ∃ error, Envelope.unwrap operation url response = .error error := by
  rw [Envelope.unwrap, failure]
  cases response.document with
  | ok detail => exact ⟨_, rfl⟩
  | error error => exact ⟨_, rfl⟩

theorem grantedPlacement?_of_isSuccess {response : Json}
    (success : Envelope.isSuccess response = true) :
    grantedPlacement? (.ok response) =
      let result := Envelope.result response
      if (result.text (utf8 "sandbox_id")).isEmpty then none
      else some {
        id := result.text (utf8 "sandbox_id")
        hostName := result.text (utf8 "host_name")
        hostAddress := result.text (utf8 "host_ip") } := by
  rcases member_eq : (Envelope.result response).member? (utf8 "sandbox_id") with _ | member
  · simp [grantedPlacement?, success, Json.text, member_eq]
  · cases member <;> simp [grantedPlacement?, success, Json.text, member_eq]

/-! ## Asking for a sandbox -/

def scheduleRequest (sandbox : Sandbox) : Request :=
  sandbox.postRequest (utf8 "start_async") sandbox.startBody defaultTimeout

/-- The outcome of asking for a sandbox, given the answer to the request. -/
def scheduleOutcome (sandbox : Sandbox) (answer : Except Error Json) : Except Error Placement :=
  (sandbox.callOutcome (utf8 "start sandbox") (utf8 "start_async") answer).bind fun result =>
    if (result.text (utf8 "sandbox_id")).isEmpty then
      .error (.call (utf8 "start sandbox") (sandbox.endpointUrl (utf8 "start_async"))
        (utf8 "response carries no sandbox_id"))
    else .ok {
      id := result.text (utf8 "sandbox_id")
      hostName := result.text (utf8 "host_name")
      hostAddress := result.text (utf8 "host_ip") }

theorem outcome_schedule (sandbox : Sandbox) :
    sandbox.schedule.outcome =
      .act (.log (sandbox.callRecord (utf8 "start sandbox") (utf8 "start_async"))) fun _ =>
        .act (.request sandbox.scheduleRequest) fun answer =>
          .done (sandbox.scheduleOutcome answer) := by
  rw [schedule, outcome_call_bind]
  congr 1
  funext _
  congr 1
  funext answer
  rw [scheduleOutcome]
  cases sandbox.callOutcome (utf8 "start sandbox") (utf8 "start_async") answer with
  | error error => rfl
  | ok result =>
      simp only [Attempt.resume, Except.bind]
      split <;> rfl

theorem toOption_scheduleOutcome (sandbox : Sandbox) (answer : Except Error Json) :
    (sandbox.scheduleOutcome answer).toOption = grantedPlacement? answer := by
  cases answer with
  | error error => rfl
  | ok response =>
      rw [scheduleOutcome, callOutcome, Except.bind]
      cases success : Envelope.isSuccess response with
      | false =>
          obtain ⟨error, unwrap_eq⟩ := unwrap_of_not_isSuccess (utf8 "start sandbox")
            (sandbox.endpointUrl (utf8 "start_async")) success
          rw [unwrap_eq]
          simp [grantedPlacement?, success, Except.bind, Except.toOption]
      | true =>
          rw [unwrap_of_isSuccess success, grantedPlacement?_of_isSuccess success]
          by_cases missing : ((Envelope.result response).text (utf8 "sandbox_id")).isEmpty
          · simp [missing, Except.bind, Except.toOption]
          · simp [missing, Except.bind, Except.toOption]

/-! ## Looking at the status -/

def statusRequest (sandbox : Sandbox) (id : Bytes) (timeout : Int) : Request where
  url := sandbox.endpointUrl (utf8 "get_status?sandbox_id=" ++ id)
  headers := sandbox.headers
  timeout := timeout
  payload := .get

/-- The outcome of a look, given the answer to its request. -/
def statusOutcome (sandbox : Sandbox) (id : Bytes) (answer : Except Error Json) :
    Except Error SandboxStatus :=
  (answer.bind (Envelope.unwrap (utf8 "get status")
    (sandbox.endpointUrl (utf8 "get_status?sandbox_id=" ++ id)))).bind SandboxStatus.ofJson

theorem outcome_fetchStatus (sandbox : Sandbox) (id : Bytes) (timeout : Int) :
    (sandbox.fetchStatus id timeout).outcome =
      .act (.request (sandbox.statusRequest id timeout)) fun answer =>
        .done (sandbox.statusOutcome id answer) := by
  rw [fetchStatus, Attempt.outcome_bind, Attempt.outcome_ofProgram]
  show Program.act _ _ = _
  congr 1
  funext answer
  cases answer with
  | error error => rfl
  | ok response =>
      simp only [statusOutcome, Except.bind, Program.pure_bind, Attempt.resume]
      cases Envelope.unwrap _ _ response <;> rfl

theorem aliveStatus?_eq (sandbox : Sandbox) (id : Bytes) (answer : Except Error Json) :
    aliveStatus? answer =
      match sandbox.statusOutcome id answer with
      | .ok status => if status.isAlive then some status else none
      | .error _ => none := by
  cases answer with
  | error error => rfl
  | ok response =>
      cases success : Envelope.isSuccess response with
      | false =>
          obtain ⟨error, unwrap_eq⟩ := unwrap_of_not_isSuccess (utf8 "get status")
            (sandbox.endpointUrl (utf8 "get_status?sandbox_id=" ++ id)) success
          simp [aliveStatus?, statusOutcome, Except.bind, success, unwrap_eq]
      | true =>
          simp [aliveStatus?, statusOutcome, Except.bind, success, unwrap_of_isSuccess success]

/-- The polling loop that waits until the sandbox with an identity is alive. -/
def watching (sandbox : Sandbox) (id : Bytes) : Polling SandboxStatus where
  budget := sandbox.startBudget
  interval := statusInterval
  request elapsed := sandbox.statusRequest id (min statusTimeout (sandbox.startBudget - elapsed))
  verdict? := aliveStatus?

/-- The outcome of a wait: the status that showed the sandbox alive, or that the time ran out. -/
def watchOutcome (sandbox : Sandbox) (id : Bytes) : Option SandboxStatus → Except Error SandboxStatus
  | some status => .ok status
  | none => .error (.startTimeout id sandbox.config.startupTimeout)

/-- Waiting for a sandbox makes the rounds of the polling loop. -/
theorem rounds_of_pollStatus {result? : Option (Except Error SandboxStatus)}
    (admitted : (sandbox.pollStatus id start patience).Admits events result?) :
    ∃ looks verdict?,
      (sandbox.watching id).Rounds start patience looks (Event.visible events) verdict? ∧
      result? = verdict?.map (sandbox.watchOutcome id) := by
  induction patience generalizing events with
  | zero =>
      obtain ⟨rfl, rfl⟩ := Program.admits_stalled_iff.mp admitted
      exact ⟨[], none, .stalled, rfl⟩
  | succ patience ih =>
      simp only [pollStatus, Clock.elapsedSince, bind, pure, Program.bind, Program.log, log,
        Program.sleep, outcome_fetchStatus, Program.admits_act_iff] at admitted
      -- the clock decides whether there is time for another look
      obtain ⟨reading, rest, rfl, admitted⟩ := admitted
      split at admitted
      next spent =>
        obtain ⟨rfl, rfl⟩ := Program.admits_done_iff.mp admitted
        exact ⟨[], some none, .expired reading spent, rfl⟩
      next left =>
        simp only [Program.admits_act_iff] at admitted
        obtain ⟨answer, rest, rfl, admitted⟩ := admitted
        let look : Look := ⟨reading, answer⟩
        have inTime : look.elapsed start < (sandbox.watching id).budget := by
          simpa [Look.elapsed, look, watching] using left
        have verdict_eq : (sandbox.watching id).verdict? look.answer = _ :=
          aliveStatus?_eq sandbox id answer
        cases outcome_eq : sandbox.statusOutcome id answer with
        | error error =>
            simp only [outcome_eq] at admitted verdict_eq
            simp only [Program.admits_act_iff] at admitted
            obtain ⟨_, _, rfl, _, rest, rfl, later⟩ := admitted
            obtain ⟨looks, verdict?, further, rfl⟩ := ih later
            exact ⟨look :: looks, verdict?, .again inTime verdict_eq further, rfl⟩
        | ok status =>
            simp only [outcome_eq] at admitted verdict_eq
            split at admitted
            next alive =>
              obtain ⟨rfl, rfl⟩ := Program.admits_done_iff.mp admitted
              rw [if_pos alive] at verdict_eq
              exact ⟨[look], some (some status), .settled inTime verdict_eq, rfl⟩
            next notAlive =>
              rw [if_neg notAlive] at verdict_eq
              obtain ⟨_, rest, rfl, later⟩ := Program.admits_act_iff.mp admitted
              obtain ⟨looks, verdict?, further, rfl⟩ := ih later
              exact ⟨look :: looks, verdict?, .again inTime verdict_eq further, rfl⟩

/-! ## The whole start -/

/-- The handle that a failed start leaves: stopped and without an identity. -/
def abandoned (sandbox : Sandbox) : Sandbox :=
  { sandbox with state := .stopped, id := [], hostName := [], hostAddress := [] }

/-- The handle that a start leaves which placed the sandbox and saw it alive. -/
def settledAt (sandbox : Sandbox) (placement : Placement) (status : SandboxStatus) : Sandbox :=
  { sandbox with
    state := .alive
    id := placement.id
    hostName := orElse status.hostName placement.hostName
    hostAddress := orElse status.hostAddress placement.hostAddress }

/-- The result of a start that was granted a placement, by the verdict of the wait. -/
def startResult (sandbox : Sandbox) (placement : Placement) :
    Option SandboxStatus → Except Error Unit × Sandbox
  | some status => (.ok (), sandbox.settledAt placement status)
  | none => (.error (.startTimeout placement.id sandbox.config.startupTimeout), sandbox.abandoned)

/-- The course of a start: its visible events and its result. -/
inductive StartCourse (sandbox : Sandbox) (patience : Nat) :
    List Event → Option (Except Error Unit × Sandbox) → Prop
  | refused (answer : Except Error Json) (error : Error) (refuses : grantedPlacement? answer = none) :
      StartCourse sandbox patience [⟨.request sandbox.scheduleRequest, answer⟩]
        (some (.error error, sandbox.abandoned))
  | granted (answer : Except Error Json) (start : Int) {placement : Placement} {looks : List Look}
      {rounds : List Event} {verdict? : Option (Option SandboxStatus)}
      (grants : grantedPlacement? answer = some placement)
      (watched : (sandbox.watching placement.id).Rounds start patience looks rounds verdict?) :
      StartCourse sandbox patience
        ([⟨.request sandbox.scheduleRequest, answer⟩, ⟨.sleep settleDelay, ()⟩, ⟨.now, start⟩] ++
          rounds)
        (verdict?.map (sandbox.startResult placement))

theorem startCourse_of_launch {result? : Option (Except Error Unit × Sandbox)}
    (admitted : (launch patience sandbox).Admits events result?) :
    StartCourse sandbox patience (Event.visible events) result? := by
  simp only [launch, enter, awaitAlive, abandon, bind, pure, Program.bind, Program.log, log,
    Program.sleep, Clock.now, outcome_schedule, Program.admits_act_iff] at admitted
  obtain ⟨_, _, rfl, _, _, rfl, _, _, rfl, answer, rest, rfl, follows⟩ := admitted
  -- what is asked for does not depend on the state the handle is in
  cases outcome_eq : scheduleOutcome { sandbox with state := .starting } answer with
  | error error =>
      simp only [outcome_eq, Program.admits_act_iff, Program.admits_done_iff] at follows
      obtain ⟨_, _, rfl, _, _, rfl, rfl, rfl⟩ := follows
      have refuses : grantedPlacement? answer = none := by
        rw [← toOption_scheduleOutcome { sandbox with state := .starting }, outcome_eq]
        rfl
      have course : StartCourse sandbox patience _ _ := .refused answer error refuses
      exact course
  | ok placement =>
      have grants : grantedPlacement? answer = some placement := by
        rw [← toOption_scheduleOutcome { sandbox with state := .starting }, outcome_eq]
        rfl
      simp only [outcome_eq, Program.admits_act_iff] at follows
      obtain ⟨_, _, rfl, _, _, rfl, reading, rest, rfl, waits⟩ := follows
      obtain ⟨outcome, third, fourth, rfl, polled, finished⟩ | ⟨stops, rfl⟩ :=
        Program.admits_bind_iff.mp waits
      · obtain ⟨looks, verdict?, rounds, verdict_eq⟩ := rounds_of_pollStatus polled
        obtain ⟨verdict, rfl, rfl⟩ := Option.map_eq_some_iff.mp verdict_eq.symm
        have quiet : Event.visible fourth = [] ∧
            result? = some (sandbox.startResult placement verdict) := by
          cases verdict with
          | none =>
              simp only [watchOutcome, Program.admits_act_iff, Program.admits_done_iff] at finished
              obtain ⟨_, _, rfl, _, _, rfl, rfl, rfl⟩ := finished
              exact ⟨rfl, rfl⟩
          | some status =>
              simp only [watchOutcome, Program.admits_act_iff, Program.admits_done_iff] at finished
              obtain ⟨_, _, rfl, _, _, rfl, rfl, rfl⟩ := finished
              exact ⟨rfl, rfl⟩
        obtain ⟨silent, rfl⟩ := quiet
        simp only [Event.visible_log, Event.visible_request, Event.visible_sleep,
          Event.visible_now, Event.visible_append, silent, List.append_nil]
        have course : StartCourse sandbox patience _ _ := .granted answer reading grants rounds
        exact course
      · obtain ⟨looks, verdict?, rounds, verdict_eq⟩ := rounds_of_pollStatus stops
        obtain rfl := Option.map_eq_none_iff.mp verdict_eq.symm
        have course : StartCourse sandbox patience _ _ := .granted answer reading grants rounds
        exact course

end Sandbox

end SandboxClient
