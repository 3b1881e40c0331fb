import SandboxClient.Proofs.Sandbox.Lifecycle
import SandboxClient.Proofs.Sandbox.Service

/-!
# Operations on a handle

Everything that can be asked of a handle, as one type.  Starting and stopping change the handle, and no
other operation does.  The others look at the status of a handle that has an identity, or they run
errands for a live one, so none of them reaches the service on a handle without an identity.  What an
operation may ask the service for is said once, and so is what becomes of the handle.
-/

namespace SandboxClient

/-- What can be asked of a handle. -/
inductive Operation where
  | start
  | stop
  | close
  | status
  | liveness
  | execute (command : Command)
  | createSession (request : SessionRequest)
  | closeSession (session : Bytes)
  | runInSession (command session : Bytes) (seconds? : Option Float)
  | run (command : Bytes) (options : RunOptions)
  | runWithRetry (command : Bytes) (options : RunOptions) (policy : Backoff)
  | putFile (path content : Bytes)
  | getFile (path encoding errors : Bytes)
  | upload (source target : Bytes)
  | runScript (script : Script)
  | changeOwner (user : Bytes) (paths : List Bytes) (recursive : Bool)
  | changeMode (mode : Bytes) (paths : List Bytes) (recursive : Bool)
  | userPresent (name : Bytes)
  | createUser (name : Bytes)
  | speedUp (kind : Speedup) (value : Bytes) (timeout : Int)

namespace Operation

variable {Result : Type} {sandbox : Sandbox}

def stops : Operation → Bool
  | .stop | .close => true
  | _ => false

/-- Whether an operation is about more than the life cycle. -/
def isService : Operation → Bool
  | .start | .stop | .close => false
  | _ => true

def looks : Operation → Bool
  | .status | .liveness => true
  | _ => false

/-- The name under which an operation is refused by a handle that is not alive, if it always is. -/
def guard? : Operation → Option Bytes
  | .execute _ => some (utf8 "execute command")
  | .createSession _ => some (utf8 "create session")
  | .closeSession _ => some (utf8 "close session")
  | .runInSession _ _ _ => some (utf8 "run in session")
  | .run _ _ => some runOperation
  | .putFile _ _ => some (utf8 "write file")
  | .getFile _ _ _ => some (utf8 "read file")
  | .upload _ _ => some (utf8 "upload file")
  | _ => none

/-- An operation that leaves the handle as it is. -/
def keeping (sandbox : Sandbox) (attempt : Attempt Result) : Program (Except Error Unit × Sandbox) :=
  attempt.outcome.bind fun outcome => .done (outcome.map fun _ => (), sandbox)

/-- The program of an operation: whether it failed, and the handle afterwards.  What else it answers is
left out. -/
def perform (patience : Nat) (sandbox : Sandbox) : Operation → Program (Except Error Unit × Sandbox)
  | .start => sandbox.start patience
  | .stop | .close => sandbox.stop.bind fun after => .done (.ok (), after)
  | .status => keeping sandbox sandbox.status
  | .liveness => keeping sandbox sandbox.liveness
  | .execute command => keeping sandbox (sandbox.execute command)
  | .createSession request => keeping sandbox (sandbox.createSession request)
  | .closeSession session => keeping sandbox (sandbox.closeSession session)
  | .runInSession command session seconds? =>
    keeping sandbox (sandbox.runInSession command session seconds?)
  | .run command options => keeping sandbox (sandbox.run patience command options)
  | .runWithRetry command options policy =>
    keeping sandbox (sandbox.runWithRetry patience command options policy)
  | .putFile path content => keeping sandbox (sandbox.putFile path content)
  | .getFile path encoding errors => keeping sandbox (sandbox.getFile path encoding errors)
  | .upload source target => keeping sandbox (sandbox.upload source target)
  | .runScript script => keeping sandbox (script.execute patience sandbox)
  | .changeOwner user paths recursive =>
    keeping sandbox (Ownership.changeOwner sandbox user paths recursive)
  | .changeMode mode paths recursive =>
    keeping sandbox (Ownership.changeMode sandbox mode paths recursive)
  | .userPresent name => keeping sandbox (Account.isPresent sandbox name)
  | .createUser name => keeping sandbox (Account.create sandbox name)
  | .speedUp kind value timeout => keeping sandbox (Speedup.apply patience sandbox kind value timeout)

theorem ne_start_of_stops {operation : Operation} (stops : operation.stops = true) :
    operation ≠ .start := by
  rintro rfl
  cases stops

theorem ne_start_of_isService {operation : Operation} (service : operation.isService = true) :
    operation ≠ .start := by
  rintro rfl
  cases service

/-! ## What becomes of the handle -/

theorem admits_stop_of_perform {patience : Nat} {operation : Operation} {events : List Event}
    {result? : Option (Except Error Unit × Sandbox)} (stops : operation.stops = true)
    (admitted : (operation.perform patience sandbox).Admits events result?) :
    ∃ after?, sandbox.stop.Admits events after? ∧ result? = after?.map fun after => (.ok (), after) := by
  cases operation with
  | stop => exact Program.admits_of_map admitted
  | close => exact Program.admits_of_map admitted
  | _ => cases stops

theorem after_eq_of_keeping {attempt : Attempt Result} {events : List Event}
    {result : Except Error Unit × Sandbox}
    (admitted : (keeping sandbox attempt).Admits events (some result)) : result.2 = sandbox := by
  obtain ⟨_, _, ended⟩ := Program.admits_of_map admitted
  obtain ⟨_, _, rfl⟩ := Option.map_eq_some_iff.mp ended.symm
  rfl

theorem after_eq_of_isService {patience : Nat} {operation : Operation} {events : List Event}
    {result : Except Error Unit × Sandbox} (service : operation.isService = true)
    (admitted : (operation.perform patience sandbox).Admits events (some result)) :
    result.2 = sandbox := by
  cases operation with
  | start => cases service
  | stop => cases service
  | close => cases service
  | _ => exact after_eq_of_keeping admitted

/-! ## What an operation asks the service for -/

/-- An operation gives commands in a session no bounds but some. -/
def GivesOnly (given : Option Float → Prop) : Operation → Prop
  | .runInSession _ _ seconds? => given seconds?
  | .run _ options | .runWithRetry _ options _ => options.GivesOnly given
  | .runScript script => script.options.GivesOnly given
  | .speedUp _ _ timeout => (Speedup.options timeout).GivesOnly given
  | _ => True

theorem givesOnly_any (operation : Operation) : operation.GivesOnly fun _ => True := by
  cases operation with
  | run command options => exact options.givesOnly_any
  | runWithRetry command options policy => exact options.givesOnly_any
  | runScript script => exact script.options.givesOnly_any
  | speedUp kind value timeout => exact (Speedup.options timeout).givesOnly_any
  | _ => trivial

theorem confined_keeping {allowed : Action → Prop} {attempt : Attempt Result}
    (confined : attempt.outcome.Confined allowed) : (keeping sandbox attempt).Confined allowed :=
  confined.bind fun _ => trivial

/-- An operation that is about more than the life cycle and the status runs errands. -/
theorem confined_perform {operation : Operation} {given : Option Float → Prop}
    (service : operation.isService = true) (other : operation.looks = false)
    (gives : operation.GivesOnly given) (sandbox : Sandbox) (patience : Nat) :
    (operation.perform patience sandbox).Confined (sandbox.Does given) := by
  cases operation with
  | start => cases service
  | stop => cases service
  | close => cases service
  | status => cases other
  | liveness => cases other
  | execute command => exact confined_keeping (sandbox.confined_execute command)
  | createSession request => exact confined_keeping (sandbox.confined_createSession request)
  | closeSession session => exact confined_keeping (sandbox.confined_closeSession session)
  | runInSession command session seconds? =>
      exact confined_keeping (sandbox.confined_runInSession command session gives)
  | run command options => exact confined_keeping (sandbox.confined_run patience command gives)
  | runWithRetry command options policy =>
      exact confined_keeping (sandbox.confined_runWithRetry patience command gives policy)
  | putFile path content => exact confined_keeping (sandbox.confined_putFile path content)
  | getFile path encoding errors => exact confined_keeping (sandbox.confined_getFile path _ _)
  | upload source target => exact confined_keeping (sandbox.confined_upload source target)
  | runScript script => exact confined_keeping (Script.confined_execute sandbox patience gives)
  | changeOwner user paths recursive =>
      exact confined_keeping (Ownership.confined_changeOwner sandbox user paths recursive)
  | changeMode mode paths recursive =>
      exact confined_keeping (Ownership.confined_changeMode sandbox mode paths recursive)
  | userPresent name => exact confined_keeping (Account.confined_isPresent sandbox name)
  | createUser name => exact confined_keeping (Account.confined_create sandbox name)
  | speedUp kind value timeout =>
      exact confined_keeping (Speedup.confined_apply sandbox patience kind value gives)

theorem serves_perform {operation : Operation} (service : operation.isService = true)
    (other : operation.looks = false) (sandbox : Sandbox) (patience : Nat) :
    (operation.perform patience sandbox).Confined sandbox.Serves :=
  (confined_perform service other operation.givesOnly_any sandbox patience).mono fun _ =>
    Sandbox.serves_of_does

/-- The request for the status of the sandbox of a handle. -/
def lookRequest (sandbox : Sandbox) : Request :=
  sandbox.statusRequest sandbox.id Sandbox.defaultTimeout

theorem perform_look {operation : Operation} (look : operation.looks = true)
    (identified : sandbox.id ≠ []) (patience : Nat) :
    operation.perform patience sandbox = .act (.request (lookRequest sandbox)) fun answer =>
      .done ((sandbox.statusOutcome sandbox.id answer).map fun _ => (), sandbox) := by
  have asked : sandbox.status.outcome = .act (.request (lookRequest sandbox)) fun answer =>
      .done (sandbox.statusOutcome sandbox.id answer) := by
    have known : sandbox.requireId (utf8 "get status") = .ok sandbox.id := by
      simp [Sandbox.requireId, identified]
    rw [Sandbox.status, known, Attempt.outcome_ok_bind, Sandbox.outcome_fetchStatus]
    rfl
  cases operation with
  | status =>
      simp only [perform, keeping, asked]
      rfl
  | liveness =>
      simp only [perform, keeping, Sandbox.liveness, Attempt.outcome_bind, asked, Program.bind]
      congr 1
      funext answer
      cases sandbox.statusOutcome sandbox.id answer <;> rfl
  | _ => cases look

theorem perform_look_of_unidentified {operation : Operation} (look : operation.looks = true)
    (unidentified : sandbox.id = []) (patience : Nat) :
    operation.perform patience sandbox =
      .done (.error (.notStarted (utf8 "get status")), sandbox) := by
  have refused : sandbox.status.outcome = .done (.error (.notStarted (utf8 "get status"))) := by
    have unknown : sandbox.requireId (utf8 "get status") =
        .error (.notStarted (utf8 "get status")) := by
      simp [Sandbox.requireId, unidentified]
    rw [Sandbox.status, unknown, Attempt.outcome_error_bind]
  cases operation with
  | status =>
      simp only [perform, keeping, refused]
      rfl
  | liveness =>
      simp only [perform, keeping, Sandbox.liveness, Attempt.outcome_bind_of_error refused]
      rfl
  | _ => cases look

theorem contacts_look {patience : Nat} {operation : Operation} {events : List Event}
    {result? : Option (Except Error Unit × Sandbox)} (look : operation.looks = true)
    (admitted : (operation.perform patience sandbox).Admits events result?) :
    (Event.contacts events).map Contact.request =
      if sandbox.id = [] then [] else [lookRequest sandbox] := by
  by_cases unidentified : sandbox.id = []
  · rw [perform_look_of_unidentified look unidentified] at admitted
    obtain ⟨rfl, _⟩ := Program.admits_done_iff.mp admitted
    simp [unidentified]
  · rw [perform_look look unidentified] at admitted
    obtain ⟨answer, rest, rfl, ended⟩ := Program.admits_act_iff.mp admitted
    obtain ⟨rfl, _⟩ := Program.admits_done_iff.mp ended
    simp [unidentified]

/-- A handle that is not alive refuses the operations that need it to be, and does nothing. -/
theorem perform_of_not_isLive {operation : Operation} {name : Bytes}
    (guarded : operation.guard? = some name) (idle : ¬ sandbox.IsLive) (patience : Nat) :
    operation.perform patience sandbox = .done (.error (.notStarted name), sandbox) := by
  have refused : ∀ {Result : Type} {continuation : Unit → Attempt Result},
      keeping sandbox (Attempt.ofExcept (sandbox.requireAlive name) >>= continuation) =
        .done (.error (.notStarted name), sandbox) := by
    intro Result continuation
    rw [keeping, Sandbox.requireAlive_of_not_isLive idle, Attempt.outcome_error_bind]
    rfl
  cases operation with
  | execute command => cases guarded; exact refused
  | createSession request => cases guarded; exact refused
  | closeSession session => cases guarded; exact refused
  | runInSession command session seconds? => cases guarded; exact refused
  | run command options => cases guarded; exact refused
  | putFile path content => cases guarded; exact refused
  | getFile path encoding errors => cases guarded; exact refused
  | upload source target => cases guarded; exact refused
  | _ => cases guarded

/-- Without an identity nothing but starting reaches the service. -/
theorem confined_perform_of_unidentified {operation : Operation}
    (service : operation.isService = true) (unidentified : sandbox.id = []) (patience : Nat) :
    (operation.perform patience sandbox).Confined Action.IsQuiet := by
  cases look : operation.looks with
  | true =>
      rw [perform_look_of_unidentified look unidentified]
      trivial
  | false =>
      refine (serves_perform service look sandbox patience).mono fun action serves => ?_
      exact Sandbox.isQuiet_of_serves (fun live => live.2 unidentified) serves

/-- A request that an operation may make. -/
def Asks (sandbox : Sandbox) (request : Request) : Operation → Prop
  | .start =>
    request = sandbox.scheduleRequest ∨ ∃ id timeout, request = sandbox.statusRequest id timeout
  | .stop | .close =>
    (sandbox.id ≠ [] ∧ sandbox.state ≠ .stopped) ∧ request = sandbox.stopRequest
  | .status | .liveness => request = lookRequest sandbox
  | _ => ∃ errand, errand ≠ .stop ∧ sandbox.Runs errand request

/-- Whatever the answers, an operation asks for nothing else, also if it never comes back. -/
theorem asks_of_admits {patience : Nat} {operation : Operation} {events : List Event}
    {result? : Option (Except Error Unit × Sandbox)} {contact : Contact}
    (admitted : (operation.perform patience sandbox).Admits events result?)
    (member : contact ∈ Event.contacts events) : operation.Asks sandbox contact.request := by
  have stopping : ∀ {after? : Option Sandbox}, sandbox.stop.Admits events after? →
      (sandbox.id ≠ [] ∧ sandbox.state ≠ .stopped) ∧ contact.request = sandbox.stopRequest := by
    intro after? stopped
    rcases Sandbox.stop_cases stopped with ⟨_, rfl, _⟩ | ⟨running, ⟨answer, only⟩, _⟩
    · cases member
    · rw [only] at member
      obtain rfl := List.mem_singleton.mp member
      exact ⟨running, rfl⟩
  have looking : operation.looks = true → contact.request = lookRequest sandbox := by
    intro look
    have listed : contact.request ∈ (Event.contacts events).map Contact.request :=
      List.mem_map_of_mem member
    rw [contacts_look look admitted] at listed
    split at listed
    · cases listed
    · exact List.mem_singleton.mp listed
  have serving : operation.isService = true → operation.looks = false →
      ∃ errand, errand ≠ .stop ∧ sandbox.Runs errand contact.request := fun service other =>
    (serves_perform service other sandbox patience).allowed_of_admits admitted _
      (Event.mem_of_mem_contacts member)
  cases operation with
  | start =>
      rcases Sandbox.contacts_start admitted with silent | ⟨_, answer, looks, calls, asked⟩
      · rw [silent] at member
        cases member
      · rw [calls] at member
        rcases List.mem_cons.mp member with rfl | later
        · exact .inl rfl
        · exact .inr (asked contact later)
  | stop => exact (admits_stop_of_perform rfl admitted).elim fun _ stopped => stopping stopped.1
  | close => exact (admits_stop_of_perform rfl admitted).elim fun _ stopped => stopping stopped.1
  | status => exact looking rfl
  | liveness => exact looking rfl
  | _ => exact serving rfl rfl

/-- A request that an operation may make, in full. -/
def Sends (given : Option Float → Prop) (sandbox : Sandbox) : Operation → Request → Prop
  | .start => sandbox.Launches
  | .stop | .close => (· = sandbox.stopRequest)
  | .status | .liveness => (· = lookRequest sandbox)
  | _ => fun request => sandbox.IsLive ∧ ∃ errand, sandbox.Makes given errand request

/-- Whatever the answers, an operation does nothing but make its requests, keep records, pause, look at
the clocks, draw and read files. -/
theorem confined_sends {operation : Operation} {given : Option Float → Prop}
    (gives : operation.GivesOnly given) (sandbox : Sandbox) (patience : Nat) :
    (operation.perform patience sandbox).Confined
      (Action.Within (operation.Sends given sandbox)) := by
  have looking : operation.looks = true → (operation.perform patience sandbox).Confined
      (Action.Within (· = lookRequest sandbox)) := by
    intro look
    by_cases unidentified : sandbox.id = []
    · rw [perform_look_of_unidentified look unidentified]
      trivial
    · rw [perform_look look unidentified]
      exact ⟨rfl, fun _ => trivial⟩
  have stopping : (sandbox.stop.bind fun after => .done (.ok (), after) :
      Program (Except Error Unit × Sandbox)).Confined (Action.Within (· = sandbox.stopRequest)) :=
    sandbox.confined_stop.bind fun _ => trivial
  cases operation with
  | start => exact sandbox.confined_start (fun _ _ => id) patience
  | stop => exact stopping
  | close => exact stopping
  | status => exact looking rfl
  | liveness => exact looking rfl
  | _ => exact confined_perform rfl rfl gives sandbox patience

end Operation

end SandboxClient
