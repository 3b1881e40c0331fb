import SandboxClient.Proofs.Sandbox.Calls
import SandboxClient.Proofs.Sandbox.Starting
import SandboxClient.Sandbox.Files

/-!
# Errands

An errand is a call about a sandbox that was started: stopping it, running something in it, or moving a
file.  Every way of running an errand looks at the handle first, so an errand is run only for a live
handle, and the request names the sandbox of that handle.  The calls that start a sandbox are no
errands, whatever the identity the service grants.
-/

namespace SandboxClient

/-- What a sandbox that was started is asked for. -/
inductive Errand where
  | stop
  | execute
  | createSession
  | closeSession
  | runInSession
  | readFile
  | writeFile
  | upload
  deriving DecidableEq, Repr

def Errand.endpoint : Errand → Bytes
  | .stop => utf8 "stop"
  | .execute => utf8 "execute"
  | .createSession => utf8 "create_session"
  | .closeSession => utf8 "close_session"
  | .runInSession => utf8 "run_in_session"
  | .readFile => utf8 "read_file"
  | .writeFile => utf8 "write_file"
  | .upload => utf8 "upload"

/-- The identity that a request carries, in its body or among the fields of its form. -/
def Request.identity? (request : Request) : Option Bytes :=
  match request.payload with
  | .post body =>
    match body.member? (utf8 "sandbox_id") with
    | some (.string id) => some id
    | _ => none
  | .form fields _ => Dictionary.get? fields (utf8 "sandbox_id")
  | .get => none

namespace Sandbox

variable {sandbox : Sandbox}

/-! ## Endpoints -/

theorem endpointUrl_inj {first second : Bytes} :
    sandbox.endpointUrl first = sandbox.endpointUrl second ↔ first = second := by
  simp [endpointUrl]

theorem endpoint_inj {errand other : Errand} :
    errand.endpoint = other.endpoint ↔ errand = other := by
  cases errand <;> cases other <;> decide

/-- No errand is run by the endpoint that starts a sandbox. -/
theorem endpoint_ne_start (errand : Errand) : errand.endpoint ≠ utf8 "start_async" := by
  cases errand <;> decide

/-- No errand is run by asking for a status, since no endpoint starts with the same letter. -/
theorem endpoint_ne_status (errand : Errand) (id : Bytes) :
    errand.endpoint ≠ utf8 "get_status?sandbox_id=" ++ id := by
  intro same
  have letter : errand.endpoint.head? = some 103 := by
    rw [same]
    rfl
  revert letter
  cases errand <;> decide

/-! ## Requests -/

/-- A request runs an errand for the sandbox of a live handle. -/
structure Runs (sandbox : Sandbox) (errand : Errand) (request : Request) : Prop where
  live : sandbox.IsLive
  url_eq : request.url = sandbox.endpointUrl errand.endpoint
  identity_eq : request.identity? = some sandbox.id

/-- What an operation on a live handle may do: call the service only to run an errand, which is not to
stop the sandbox. -/
def Serves (sandbox : Sandbox) : Action → Prop
  | .request request => ∃ errand, errand ≠ .stop ∧ sandbox.Runs errand request
  | .acquire _ | .transfer _ => False
  | _ => True

theorem isQuiet_of_serves (idle : ¬ sandbox.IsLive) {action : Action} (serves : sandbox.Serves action) :
    action.IsQuiet := by
  cases action with
  | request request =>
      obtain ⟨_, _, runs⟩ := serves
      exact absurd runs.live idle
  | _ => exact serves

/-! ## Counting calls -/

/-- How many of some calls go to an endpoint. -/
def callsTo (sandbox : Sandbox) (endpoint : Bytes) (calls : List Contact) : Nat :=
  calls.countP fun call => call.request.url = sandbox.endpointUrl endpoint

@[simp]
theorem callsTo_nil (sandbox : Sandbox) (endpoint : Bytes) : sandbox.callsTo endpoint [] = 0 :=
  rfl

@[simp]
theorem callsTo_append (sandbox : Sandbox) (endpoint : Bytes) (calls others : List Contact) :
    sandbox.callsTo endpoint (calls ++ others) =
      sandbox.callsTo endpoint calls + sandbox.callsTo endpoint others := by
  simp [callsTo]

/-- Where a call goes does not depend on its answer. -/
theorem callsTo_eq_countP (sandbox : Sandbox) (endpoint : Bytes) (calls : List Contact) :
    sandbox.callsTo endpoint calls =
      (calls.map Contact.request).countP fun request => request.url = sandbox.endpointUrl endpoint := by
  rw [callsTo, List.countP_map]
  rfl

/-- Handles of one configuration have the same endpoints. -/
theorem callsTo_eq_of_config_eq {other : Sandbox} (same : other.config = sandbox.config) :
    other.callsTo = sandbox.callsTo := by
  funext endpoint calls
  simp [callsTo, endpointUrl, Sandbox.url, same]

theorem callsTo_eq_zero {endpoint : Bytes} {calls : List Contact}
    (elsewhere : ∀ call ∈ calls, call.request.url ≠ sandbox.endpointUrl endpoint) :
    sandbox.callsTo endpoint calls = 0 := by
  rw [callsTo, List.countP_eq_zero]
  intro call member
  simpa using elsewhere call member

theorem callsTo_eq_zero_of_serves {endpoint : Bytes} {events : List Event}
    (served : ∀ event ∈ events, sandbox.Serves event.action)
    (unserved : ∀ errand : Errand, errand ≠ .stop → errand.endpoint ≠ endpoint) :
    sandbox.callsTo endpoint (Event.contacts events) = 0 := by
  refine callsTo_eq_zero fun call member same => ?_
  obtain ⟨errand, different, runs⟩ := served _ (Event.mem_of_mem_contacts member)
  rw [runs.url_eq, endpointUrl_inj] at same
  exact unserved errand different same

/-! ## The requests that run errands -/

def executeRequest (sandbox : Sandbox) (command : Command) : Request :=
  sandbox.postRequest (utf8 "execute") (sandbox.commandBody command)
    (max defaultTimeout (command.timeout * 1000))

def closingRequest (sandbox : Sandbox) (session : Bytes) : Request :=
  sandbox.postRequest (utf8 "close_session")
    (.object [(utf8 "sandbox_id", .string sandbox.id), (utf8 "session", .string session)])
    defaultTimeout

def writeRequest (sandbox : Sandbox) (path content : Bytes) : Request :=
  sandbox.postRequest (utf8 "write_file")
    (.object [(utf8 "content", .string content), (utf8 "path", .string path),
      (utf8 "sandbox_id", .string sandbox.id)]) defaultTimeout

/-- The encoding and the treatment of undecodable bytes are only sent if they are not empty. -/
def readRequest (sandbox : Sandbox) (path encoding errors : Bytes) : Request :=
  let optional := fun (name value : Bytes) =>
    if value.isEmpty then ([] : List (Bytes × Json)) else [(name, .string value)]
  sandbox.postRequest (utf8 "read_file")
    (.object (optional (utf8 "encoding") encoding ++ optional (utf8 "errors") errors ++
      [(utf8 "path", .string path), (utf8 "sandbox_id", .string sandbox.id)])) defaultTimeout

def uploadRequest (sandbox : Sandbox) (source target content : Bytes) : Request where
  url := sandbox.endpointUrl (utf8 "upload")
  headers := sandbox.headers
  timeout := defaultTimeout
  payload := .form [(utf8 "sandbox_id", sandbox.id), (utf8 "target_path", target)]
    { fileName := fileNameOf source, content }

/-- A request runs an errand for the sandbox of a handle.  Commands in a session are given no other bounds
than those that are allowed for. -/
inductive Makes (sandbox : Sandbox) (given : Option Float → Prop) : Errand → Request → Prop
  | execute (command : Command) : Makes sandbox given .execute (sandbox.executeRequest command)
  | createSession (request : SessionRequest) :
      Makes sandbox given .createSession (sandbox.creationRequest request)
  | closeSession (session : Bytes) :
      Makes sandbox given .closeSession (sandbox.closingRequest session)
  | runInSession (command session : Bytes) {seconds? : Option Float} (bound : given seconds?) :
      Makes sandbox given .runInSession (sandbox.sessionRequest command session seconds?)
  | writeFile (path content : Bytes) :
      Makes sandbox given .writeFile (sandbox.writeRequest path content)
  | readFile (path encoding errors : Bytes) :
      Makes sandbox given .readFile (sandbox.readRequest path encoding errors)
  | upload (source target content : Bytes) :
      Makes sandbox given .upload (sandbox.uploadRequest source target content)

variable {given : Option Float → Prop}

theorem Makes.runs {errand : Errand} {request : Request} (makes : sandbox.Makes given errand request)
    (live : sandbox.IsLive) : errand ≠ .stop ∧ sandbox.Runs errand request := by
  cases makes with
  | execute command =>
      refine ⟨by decide, live, rfl, ?_⟩
      simp only [Request.identity?, executeRequest, postRequest, commandBody]
      cases command.directory.isEmpty <;> cases command.environment.isEmpty <;> rfl
  | createSession request =>
      refine ⟨by decide, live, rfl, ?_⟩
      simp [Request.identity?, creationRequest, postRequest, SessionRequest.toJson, Json.withMember,
        Json.member?]
  | closeSession session => exact ⟨by decide, live, rfl, rfl⟩
  | runInSession command session bound => exact ⟨by decide, live, rfl, rfl⟩
  | writeFile path content => exact ⟨by decide, live, rfl, rfl⟩
  | readFile path encoding errors =>
      refine ⟨by decide, live, rfl, ?_⟩
      simp only [Request.identity?, readRequest, postRequest]
      cases encoding.isEmpty <;> cases errors.isEmpty <;> rfl
  | upload source target content => exact ⟨by decide, live, rfl, rfl⟩

/-- What an operation on a live handle may do: call the service only with the requests that run errands. -/
def Does (sandbox : Sandbox) (given : Option Float → Prop) : Action → Prop :=
  Action.Within fun request => sandbox.IsLive ∧ ∃ errand, sandbox.Makes given errand request

theorem serves_of_does {action : Action} (does : sandbox.Does given action) : sandbox.Serves action := by
  cases action with
  | request request =>
      obtain ⟨live, errand, makes⟩ := does
      exact ⟨errand, makes.runs live⟩
  | acquire resource => exact does
  | transfer transfer => exact does
  | _ => trivial

/-! ## Errands of the single operations -/

/-- A guarded attempt runs errands if what follows the guard does on a live handle. -/
theorem confined_requireAlive_bind {Result : Type} {operation : Bytes}
    {continuation : Unit → Attempt Result}
    (follows : sandbox.IsLive → (continuation ()).outcome.Confined (sandbox.Does given)) :
    (Attempt.ofExcept (sandbox.requireAlive operation) >>= continuation).outcome.Confined
      (sandbox.Does given) := by
  by_cases live : sandbox.IsLive
  · rw [live.requireAlive]
    exact follows live
  · rw [requireAlive_of_not_isLive live]
    trivial

theorem confined_execute (sandbox : Sandbox) (command : Command) :
    (sandbox.execute command).outcome.Confined (sandbox.Does given) := by
  refine confined_requireAlive_bind fun live => ?_
  refine Attempt.confined_bind ⟨trivial, fun _ => trivial⟩ fun _ => ?_
  refine Attempt.confined_bind ?_ fun _ => trivial
  exact confined_call ⟨live, _, .execute command⟩

theorem confined_createSession (sandbox : Sandbox) (request : SessionRequest) :
    (sandbox.createSession request).outcome.Confined (sandbox.Does given) := by
  refine confined_requireAlive_bind fun live => ?_
  refine Attempt.confined_bind ?_ fun _ => ⟨trivial, fun _ => trivial⟩
  exact confined_call ⟨live, _, .createSession request⟩

theorem confined_closeSession (sandbox : Sandbox) (session : Bytes) :
    (sandbox.closeSession session).outcome.Confined (sandbox.Does given) := by
  refine confined_requireAlive_bind fun live => ?_
  refine Attempt.confined_bind ?_ fun _ => trivial
  exact confined_call ⟨live, _, .closeSession session⟩

theorem confined_runInSession (sandbox : Sandbox) (command session : Bytes) {seconds? : Option Float}
    (bound : given seconds?) :
    (sandbox.runInSession command session seconds?).outcome.Confined (sandbox.Does given) := by
  refine confined_requireAlive_bind fun live => ?_
  refine Attempt.confined_bind ?_ fun _ => trivial
  exact confined_call ⟨live, _, .runInSession command session bound⟩

theorem confined_putFile (sandbox : Sandbox) (path content : Bytes) :
    (sandbox.putFile path content).outcome.Confined (sandbox.Does given) := by
  refine confined_requireAlive_bind fun live => ?_
  refine Attempt.confined_bind ?_ fun response => ?_
  · exact ⟨⟨live, _, .writeFile path content⟩, fun _ => trivial⟩
  · split
    · trivial
    · refine Attempt.confined_bind trivial fun _ => ⟨trivial, fun _ => trivial⟩

theorem confined_getFile (sandbox : Sandbox) (path encoding errors : Bytes) :
    (sandbox.getFile path encoding errors).outcome.Confined (sandbox.Does given) := by
  refine confined_requireAlive_bind fun live => ?_
  refine Attempt.confined_bind ?_ fun _ => trivial
  exact confined_call ⟨live, _, .readFile path encoding errors⟩

theorem confined_upload (sandbox : Sandbox) (source target : Bytes) :
    (sandbox.upload source target).outcome.Confined (sandbox.Does given) := by
  refine confined_requireAlive_bind fun live => ?_
  refine Attempt.confined_bind ⟨trivial, fun _ => trivial⟩ fun file => ?_
  cases file with
  | missing => trivial
  | unopened => trivial
  | unreachable reason => trivial
  | content content =>
      refine Attempt.confined_bind ⟨trivial, fun _ => trivial⟩ fun _ => ?_
      refine Attempt.confined_bind ?_ fun response => ?_
      · exact ⟨⟨live, _, .upload source target content⟩, fun _ => trivial⟩
      · split
        · trivial
        · exact Attempt.confined_bind trivial fun _ => trivial

end Sandbox

end SandboxClient
