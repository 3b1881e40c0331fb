import SandboxClient.Proofs.Program.Contact
import SandboxClient.Proofs.Program.Confinement
import SandboxClient.Sandbox.Execution

/-!
# Calls of a handle

What each way of calling the service sends and what becomes of the answer.  A handle that is alive
sends exactly one request per call, and its outcome is a function of the answer alone; a handle that is
not alive sends nothing.
-/

namespace SandboxClient

namespace Sandbox

variable {sandbox : Sandbox} {events : List Event}

/-- A handle that may run commands: it is alive and has an identity. -/
def IsLive (sandbox : Sandbox) : Prop :=
  sandbox.state = .alive ∧ sandbox.id ≠ []

theorem IsLive.requireAlive (live : sandbox.IsLive) (operation : Bytes) :
    sandbox.requireAlive operation = .ok () := by
  obtain ⟨alive, identified⟩ := live
  simp [Sandbox.requireAlive, alive, identified]

theorem requireAlive_of_not_isLive (idle : ¬ sandbox.IsLive) (operation : Bytes) :
    sandbox.requireAlive operation = .error (.notStarted operation) := by
  have refused : sandbox.id = [] ∨ sandbox.state ≠ .alive := by
    by_cases alive : sandbox.state = .alive
    · exact .inl (Classical.byContradiction fun identified => idle ⟨alive, identified⟩)
    · exact .inr alive
  simp [Sandbox.requireAlive, refused]

theorem IsLive.requireId (live : sandbox.IsLive) (operation : Bytes) :
    sandbox.requireId operation = .ok sandbox.id := by
  simp [Sandbox.requireId, live.2]

theorem IsLive.sandboxId (live : sandbox.IsLive) : sandbox.sandboxId = .ok sandbox.id :=
  live.requireId _

/-! ## Posting -/

def postRequest (sandbox : Sandbox) (endpoint : Bytes) (body : Json) (timeout : Int) : Request where
  url := sandbox.endpointUrl endpoint
  headers := sandbox.headers
  timeout := timeout
  payload := .post body

def callRecord (sandbox : Sandbox) (operation endpoint : Bytes) : Log.Record where
  logger := sandbox.logger
  level := .debug
  message := utf8 "POST " ++ sandbox.endpointUrl endpoint ++ utf8 " (" ++ operation ++ utf8 ")"

/-- The outcome of a call, given the answer to its request. -/
def callOutcome (sandbox : Sandbox) (operation endpoint : Bytes) (answer : Except Error Json) :
    Except Error Json :=
  answer.bind (Envelope.unwrap operation (sandbox.endpointUrl endpoint))

theorem outcome_call (sandbox : Sandbox) (operation endpoint : Bytes) (body : Json)
    (timeout : Int) :
    (sandbox.call operation endpoint body timeout).outcome =
      .act (.log (sandbox.callRecord operation endpoint)) fun _ =>
        .act (.request (sandbox.postRequest endpoint body timeout)) fun answer =>
          .done (sandbox.callOutcome operation endpoint answer) := by
  show Program.act _ _ = _
  congr 1
  funext _
  show Program.act _ _ = _
  congr 1
  funext answer
  cases answer <;> rfl

theorem outcome_call_bind {Result : Type} (sandbox : Sandbox) (operation endpoint : Bytes)
    (body : Json) (timeout : Int) (continuation : Json → Attempt Result) :
    (sandbox.call operation endpoint body timeout >>= continuation).outcome =
      .act (.log (sandbox.callRecord operation endpoint)) fun _ =>
        .act (.request (sandbox.postRequest endpoint body timeout)) fun answer =>
          Attempt.resume continuation (sandbox.callOutcome operation endpoint answer) := by
  rw [Attempt.outcome_bind, outcome_call]
  rfl

theorem confined_call {permitted : Request → Prop} {operation endpoint : Bytes} {body : Json}
    {timeout : Int} (permits : permitted (sandbox.postRequest endpoint body timeout)) :
    (sandbox.call operation endpoint body timeout).outcome.Confined (Action.Within permitted) := by
  rw [outcome_call]
  exact ⟨trivial, fun _ => ⟨permits, fun _ => trivial⟩⟩

/-! ## Sessions -/

def creationRequest (sandbox : Sandbox) (request : SessionRequest) : Request :=
  sandbox.postRequest (utf8 "create_session")
    (request.toJson.withMember (utf8 "sandbox_id") (.string sandbox.id)) defaultTimeout

/-- What the answer to a request for a session comes to. -/
def creationOutcome (sandbox : Sandbox) (answer : Except Error Json) : Except Error Unit :=
  (sandbox.callOutcome (utf8 "create session") (utf8 "create_session") answer).map fun _ => ()

/-- Whether an answer says that a session was created. -/
def isCreated (sandbox : Sandbox) (answer : Except Error Json) : Bool :=
  (sandbox.callOutcome (utf8 "create session") (utf8 "create_session") answer).toBool

theorem isCreated_eq (sandbox : Sandbox) (answer : Except Error Json) :
    sandbox.isCreated answer = (sandbox.creationOutcome answer).toBool := by
  rw [isCreated, creationOutcome]
  cases sandbox.callOutcome (utf8 "create session") (utf8 "create_session") answer <;> rfl

/-- Creating a session makes one request, and its answer decides the outcome. -/
theorem visible_createSession (live : sandbox.IsLive) {request : SessionRequest}
    {outcome? : Option (Except Error SessionResponse)}
    (admitted : (sandbox.createSession request).outcome.Admits events outcome?) :
    ∃ answer outcome, Event.visible events = [⟨.request (sandbox.creationRequest request), answer⟩] ∧
      outcome? = some outcome ∧ sandbox.creationOutcome answer = outcome.map fun _ => () := by
  rw [createSession, live.requireAlive, Attempt.outcome_ok_bind, outcome_call_bind] at admitted
  simp only [Program.admits_act_iff] at admitted
  obtain ⟨_, _, rfl, answer, rest, rfl, follows⟩ := admitted
  cases called : sandbox.callOutcome (utf8 "create session") (utf8 "create_session") answer with
  | error error =>
      simp only [called, Attempt.resume, Program.admits_done_iff] at follows
      obtain ⟨rfl, rfl⟩ := follows
      exact ⟨answer, .error error, rfl, rfl, by simp [creationOutcome, called, Except.map]⟩
  | ok result =>
      simp only [called, Attempt.resume] at follows
      obtain ⟨_, _, rfl, finished⟩ := Program.admits_act_iff.mp follows
      obtain ⟨rfl, rfl⟩ := Program.admits_done_iff.mp finished
      exact ⟨answer, _, rfl, rfl, by simp [creationOutcome, called, Except.map]⟩

def sessionRequest (sandbox : Sandbox) (command session : Bytes) (seconds? : Option Float) :
    Request :=
  sandbox.postRequest (utf8 "run_in_session") (sandbox.sessionBody command session seconds?)
    (sessionTimeout seconds?)

/-- The outcome of a command in a session, given the answer to its request. -/
def sessionOutcome (sandbox : Sandbox) (answer : Except Error Json) : Except Error Observation :=
  (sandbox.callOutcome (utf8 "run in session") (utf8 "run_in_session") answer).bind
    Observation.ofJson

theorem outcome_runInSession (live : sandbox.IsLive) (command session : Bytes)
    (seconds? : Option Float) :
    (sandbox.runInSession command session seconds?).outcome =
      .act (.log (sandbox.callRecord (utf8 "run in session") (utf8 "run_in_session"))) fun _ =>
        .act (.request (sandbox.sessionRequest command session seconds?)) fun answer =>
          .done (sandbox.sessionOutcome answer) := by
  rw [runInSession, live.requireAlive, Attempt.outcome_ok_bind, outcome_call_bind]
  congr 1
  funext _
  congr 1
  funext answer
  rw [sessionOutcome]
  cases sandbox.callOutcome (utf8 "run in session") (utf8 "run_in_session") answer <;> rfl

end Sandbox

end SandboxClient
