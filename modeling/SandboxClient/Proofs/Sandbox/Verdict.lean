import SandboxClient.Proofs.Program.Rehearsal
import SandboxClient.Proofs.Results
import SandboxClient.Proofs.Sandbox.Errand
import SandboxClient.Sandbox.Account
import SandboxClient.Sandbox.Ownership

/-!
# Verdicts on commands

Operations on accounts and on the owner or the mode of paths give commands in turn, until one of them
reports zero, and say whether one did.  Zero is what the exit code is read as: a number other than zero
passes for it if a 32-bit word keeps nothing of the number.
-/

namespace SandboxClient

namespace Sandbox

variable {sandbox : Sandbox} {command next : Command} {commands : List Command}
  {events : List Event} {contacts : List Contact}

/-- The value that the answer to a command opens to. -/
def executionResult (sandbox : Sandbox) (answer : Except Error Json) : Except Error Json :=
  sandbox.callOutcome (utf8 "execute command") (utf8 "execute") answer

/-- The outcome of a command, given the answer to its request. -/
def executionOutcome (sandbox : Sandbox) (answer : Except Error Json) : Except Error CommandResponse :=
  (sandbox.executionResult answer).bind CommandResponse.ofJson

def executeRecord (sandbox : Sandbox) (command : Command) : Log.Record where
  logger := sandbox.logger
  level := .debug
  message := sandbox.tagged (utf8 "execute: " ++ command.display)

theorem outcome_execute (live : sandbox.IsLive) (command : Command) :
    (sandbox.execute command).outcome =
      .act (.log (sandbox.executeRecord command)) fun _ =>
        .act (.log (sandbox.callRecord (utf8 "execute command") (utf8 "execute"))) fun _ =>
          .act (.request (sandbox.executeRequest command)) fun answer =>
            .done (sandbox.executionOutcome answer) := by
  rw [execute, live.requireAlive, Attempt.outcome_ok_bind, Attempt.outcome_lift_bind]
  show Program.act _ _ = _
  congr 1
  funext _
  rw [Program.pure_bind, outcome_call_bind]
  congr 1
  funext _
  congr 1
  funext answer
  rw [executionOutcome, executionResult]
  cases sandbox.callOutcome (utf8 "execute command") (utf8 "execute") answer <;> rfl

theorem outcome_execute_of_not_isLive (idle : ¬ sandbox.IsLive) (command : Command) :
    (sandbox.execute command).outcome = .done (.error (.notStarted (utf8 "execute command"))) := by
  rw [execute, requireAlive_of_not_isLive idle, Attempt.outcome_error_bind]

/-- A live handle sends a command in one request, whose answer decides the outcome. -/
theorem visible_execute (live : sandbox.IsLive) {outcome? : Option (Except Error CommandResponse)}
    (admitted : (sandbox.execute command).outcome.Admits events outcome?) :
    ∃ answer, Event.visible events = [⟨.request (sandbox.executeRequest command), answer⟩] ∧
      outcome? = some (sandbox.executionOutcome answer) := by
  rw [outcome_execute live] at admitted
  simp only [Program.admits_act_iff, Program.admits_done_iff] at admitted
  obtain ⟨_, _, rfl, _, _, rfl, answer, _, rfl, rfl, rfl⟩ := admitted
  exact ⟨answer, rfl, rfl⟩

theorem contacts_execute (live : sandbox.IsLive) {outcome? : Option (Except Error CommandResponse)}
    (admitted : (sandbox.execute command).outcome.Admits events outcome?) :
    ∃ answer, Event.contacts events = [⟨sandbox.executeRequest command, answer⟩] ∧
      outcome? = some (sandbox.executionOutcome answer) := by
  obtain ⟨answer, only, rfl⟩ := visible_execute live admitted
  exact ⟨answer, by rw [← Event.contacts_visible, only]; rfl, rfl⟩

/-! ## Commands in turn -/

/-- Commands that are given in turn until one reports zero, with the calls that are made and the verdict:
whether one did.  There is none if the handle is not alive, or if an answer does not open to a value whose
texts are UTF-8. -/
inductive Tried (sandbox : Sandbox) : List Command → List Contact → Except Error Bool → Prop
  | idle {commands : List Command} {error : Error} (idle : ¬ sandbox.IsLive) :
      Tried sandbox commands [] (.error error)
  | unread {command : Command} {commands : List Command} {answer : Except Error Json} {error : Error}
      (unread : ∀ value, sandbox.executionResult answer = .ok value → ¬ value.IsUtf8) :
      Tried sandbox (command :: commands) [⟨sandbox.executeRequest command, answer⟩] (.error error)
  | succeeded {command : Command} {commands : List Command} {answer : Except Error Json} {value : Json}
      (opened : sandbox.executionResult answer = .ok value) (zero : value.ReadsAsZero) :
      Tried sandbox (command :: commands) [⟨sandbox.executeRequest command, answer⟩] (.ok true)
  | failed {command : Command} {answer : Except Error Json} {value : Json}
      (opened : sandbox.executionResult answer = .ok value) (other : ¬ value.ReadsAsZero) :
      Tried sandbox [command] [⟨sandbox.executeRequest command, answer⟩] (.ok false)
  | again {command next : Command} {commands : List Command} {answer : Except Error Json} {value : Json}
      {contacts : List Contact} {verdict : Except Error Bool}
      (opened : sandbox.executionResult answer = .ok value) (other : ¬ value.ReadsAsZero)
      (rest : Tried sandbox (next :: commands) contacts verdict) :
      Tried sandbox (command :: next :: commands) (⟨sandbox.executeRequest command, answer⟩ :: contacts)
        verdict

theorem Tried.followed {verdict : Except Error Bool} (first : sandbox.Tried [command] contacts (.ok false))
    {later : List Contact} (rest : sandbox.Tried (next :: commands) later verdict) :
    sandbox.Tried (command :: next :: commands) (contacts ++ later) verdict := by
  cases first with
  | failed opened other => exact .again opened other rest

/-- No further commands are given after a verdict of success, nor after an error. -/
theorem Tried.weaken {verdict : Except Error Bool} (first : sandbox.Tried [command] contacts verdict)
    (settled : verdict ≠ .ok false) (commands : List Command) :
    sandbox.Tried (command :: commands) contacts verdict := by
  cases first with
  | idle idle => exact .idle idle
  | unread unread => exact .unread unread
  | succeeded opened zero => exact .succeeded opened zero
  | failed opened other => exact (settled rfl).elim

/-- What follows the response to a command does not call the service.  It tells whether the command
succeeded, and fails only if the response has no document. -/
def Tells {Result : Type} (verdict : Result → Bool) (continuation : CommandResponse → Attempt Result) :
    Prop :=
  ∀ response events outcome?, (continuation response).outcome.Admits events outcome? →
    Event.contacts events = [] ∧ ∃ outcome, outcome? = some outcome ∧
      (∀ result, outcome = .ok result → verdict result = response.succeeded) ∧
      ∀ error text, outcome = .error error → response.toJson.document ≠ .ok text

theorem tells_of_document {Result : Type} {verdict : Result → Bool}
    {finish : CommandResponse → Bytes → Attempt Result}
    (finishes : ∀ response text events outcome?,
      (finish response text).outcome.Admits events outcome? → Event.contacts events = [] ∧
        ∃ result, outcome? = some (.ok result) ∧ verdict result = response.succeeded) :
    Tells verdict fun response => .ofExcept response.toJson.document >>= finish response := by
  intro response events outcome? admitted
  simp only at admitted
  cases written : response.toJson.document with
  | error error =>
      rw [written] at admitted
      obtain ⟨rfl, rfl⟩ := Program.admits_done_iff.mp admitted
      exact ⟨rfl, _, rfl, by simp, by simp⟩
  | ok text =>
      rw [written, Attempt.outcome_ok_bind] at admitted
      obtain ⟨silent, result, rfl, told⟩ := finishes response text events outcome? admitted
      exact ⟨silent, _, rfl, by rintro _ ⟨⟩; exact told, by simp⟩

/-- An outcome that is an error comes from an answer without a value to read it from. -/
theorem not_isUtf8_of_executionOutcome {answer : Except Error Json} {error : Error}
    (failed : sandbox.executionOutcome answer = .error error) :
    ∀ value, sandbox.executionResult answer = .ok value → ¬ value.IsUtf8 := by
  intro value opened valid
  obtain ⟨response, read, _⟩ := CommandResponse.ofJson_of_isUtf8 valid
  rw [executionOutcome, opened, Except.bind, read] at failed
  cases failed

theorem executionResult_of_executionOutcome {answer : Except Error Json} {response : CommandResponse}
    (answered : sandbox.executionOutcome answer = .ok response) :
    ∃ value, sandbox.executionResult answer = .ok value ∧ CommandResponse.ofJson value = .ok response :=
  Except.exists_of_bind_eq_ok answered

theorem tried_of_execute_bind {Result : Type} {verdict : Result → Bool}
    {continuation : CommandResponse → Attempt Result} (tells : Tells verdict continuation)
    {outcome? : Option (Except Error Result)}
    (admitted : (sandbox.execute command >>= continuation).outcome.Admits events outcome?) :
    ∃ outcome, outcome? = some outcome ∧
      sandbox.Tried [command] (Event.contacts events) (outcome.map verdict) := by
  by_cases live : sandbox.IsLive
  · rcases Attempt.admits_bind_iff.mp admitted with
      ⟨response, first, second, rfl, executed, follows⟩ | ⟨error, executed, rfl⟩ | ⟨executed, _⟩
    · obtain ⟨answer, called, answered⟩ := contacts_execute live executed
      obtain ⟨value, opened, read⟩ := executionResult_of_executionOutcome (Option.some.inj answered).symm
      obtain ⟨silent, outcome, rfl, told, undocumented⟩ := tells _ _ _ follows
      refine ⟨outcome, rfl, ?_⟩
      rw [Event.contacts_append, called, silent, List.append_nil]
      cases outcome with
      | error error =>
          refine .unread fun other reopened valid => ?_
          obtain ⟨reread, read_eq, text, written⟩ := CommandResponse.ofJson_of_isUtf8 valid
          rw [opened] at reopened
          cases reopened
          rw [read] at read_eq
          cases read_eq
          exact undocumented error text rfl written
      | ok result =>
          have succeeded := CommandResponse.succeeded_iff_of_ofJson read
          rw [Except.map, told result rfl]
          cases verdict_eq : response.succeeded with
          | true => exact .succeeded opened (succeeded.mp verdict_eq)
          | false => exact .failed opened (by simp [← succeeded, verdict_eq])
    · obtain ⟨answer, called, answered⟩ := contacts_execute live executed
      rw [called]
      exact ⟨_, rfl, .unread (not_isUtf8_of_executionOutcome (Option.some.inj answered).symm)⟩
    · obtain ⟨_, _, impossible⟩ := contacts_execute live executed
      cases impossible
  · rw [execute, requireAlive_of_not_isLive live] at admitted
    obtain ⟨rfl, rfl⟩ := Program.admits_done_iff.mp admitted
    exact ⟨_, rfl, .idle live⟩

end Sandbox

/-! ## Operations that give commands -/

variable {sandbox : Sandbox} {events : List Event}

def Account.identification (name : Bytes) : Command :=
  .ofArguments [utf8 "id", name] timeout

def Account.addition (name : Bytes) : Command :=
  .ofArguments [utf8 "useradd", utf8 "-m", utf8 "-s", utf8 "/bin/bash", name] timeout

theorem Account.tried_of_isPresent {name : Bytes} {outcome? : Option (Except Error Bool)}
    (admitted : (isPresent sandbox name).outcome.Admits events outcome?) :
    ∃ verdict, outcome? = some verdict ∧
      sandbox.Tried [identification name] (Event.contacts events) verdict := by
  have tried : ∃ outcome, outcome? = some outcome ∧
      sandbox.Tried [identification name] (Event.contacts events) (outcome.map id) := by
    refine Sandbox.tried_of_execute_bind (fun response events outcome? admitted => ?_) admitted
    cases told : response.succeeded with
    | true =>
        simp only [told, if_true] at admitted
        obtain ⟨_, silent, ended⟩ := Attempt.exists_of_log_bind admitted
        obtain ⟨rfl, rfl⟩ := Program.admits_done_iff.mp ended
        exact ⟨silent, .ok true, rfl, by rintro _ ⟨⟩; rfl, by simp⟩
    | false =>
        simp only [told] at admitted
        obtain ⟨rfl, rfl⟩ := Program.admits_done_iff.mp admitted
        exact ⟨rfl, .ok false, rfl, by rintro _ ⟨⟩; rfl, by simp⟩
  obtain ⟨outcome, rfl, tried⟩ := tried
  exact ⟨outcome, rfl, by cases outcome <;> exact tried⟩

theorem Account.tried_of_create {name : Bytes} {outcome? : Option (Except Error Bool)}
    (admitted : (create sandbox name).outcome.Admits events outcome?) :
    ∃ verdict, outcome? = some verdict ∧
      sandbox.Tried [identification name, addition name] (Event.contacts events) verdict := by
  rcases Attempt.admits_bind_iff.mp admitted with
    ⟨present, first, second, rfl, looked, follows⟩ | ⟨error, looked, rfl⟩ | ⟨looked, _⟩
  · obtain ⟨verdict, equal, tried⟩ := tried_of_isPresent looked
    cases equal
    cases present with
    | true =>
        obtain ⟨rfl, rfl⟩ := Program.admits_done_iff.mp follows
        rw [List.append_nil]
        exact ⟨_, rfl, tried.weaken (by simp) [addition name]⟩
    | false =>
        have added : ∃ outcome, outcome? = some outcome ∧
            sandbox.Tried [addition name] (Event.contacts second) (outcome.map id) := by
          refine Sandbox.tried_of_execute_bind (Sandbox.tells_of_document ?_) follows
          intro response text events outcome? finished
          obtain ⟨_, silent, ended⟩ := Attempt.exists_of_log_bind finished
          obtain ⟨rfl, rfl⟩ := Program.admits_done_iff.mp ended
          exact ⟨silent, _, rfl, rfl⟩
        obtain ⟨outcome, rfl, rest⟩ := added
        rw [Event.contacts_append]
        exact ⟨outcome, rfl, tried.followed (by cases outcome <;> exact rest)⟩
  · obtain ⟨verdict, equal, tried⟩ := tried_of_isPresent looked
    cases equal
    exact ⟨_, rfl, tried.weaken (by simp) [addition name]⟩
  · obtain ⟨_, impossible, _⟩ := tried_of_isPresent looked
    cases impossible

theorem Ownership.tried_of_apply {name : Bytes} {arguments : List Bytes}
    {outcome? : Option (Except Error ChangeResponse)}
    (admitted : (apply sandbox name arguments).outcome.Admits events outcome?) :
    ∃ outcome, outcome? = some outcome ∧
      sandbox.Tried [.ofArguments arguments timeout] (Event.contacts events)
        (outcome.map ChangeResponse.success) := by
  obtain ⟨_, silent, follows⟩ := Attempt.exists_of_log_bind admitted
  rw [silent]
  refine Sandbox.tried_of_execute_bind (Sandbox.tells_of_document ?_) follows
  intro response text events outcome? finished
  obtain ⟨rfl, rfl⟩ := Program.admits_done_iff.mp finished
  exact ⟨rfl, _, rfl, rfl⟩

def Ownership.ownerCommand (user : Bytes) (paths : List Bytes) (recursive : Bool) : Command :=
  .ofArguments ([utf8 "chown"] ++ recursiveOption recursive ++ [user ++ utf8 ":" ++ user] ++ paths)
    timeout

def Ownership.modeCommand (mode : Bytes) (paths : List Bytes) (recursive : Bool) : Command :=
  .ofArguments ([utf8 "chmod"] ++ recursiveOption recursive ++ [mode] ++ paths) timeout

theorem Ownership.refused_or_follows {Result : Type} {paths : List Bytes}
    {continuation : Unit → Attempt Result} {outcome? : Option (Except Error Result)}
    (admitted : (Attempt.ofExcept (requirePaths paths) >>= continuation).outcome.Admits events outcome?) :
    (paths = [] ∧ events = [] ∧ ∃ error, outcome? = some (.error error)) ∨
      (paths ≠ [] ∧ (continuation ()).outcome.Admits events outcome?) := by
  rw [requirePaths] at admitted
  cases paths with
  | nil =>
      obtain ⟨silent, refused⟩ := Program.admits_done_iff.mp admitted
      exact .inl ⟨rfl, silent, _, refused⟩
  | cons path paths => exact .inr ⟨List.cons_ne_nil path paths, admitted⟩

theorem Ownership.tried_of_changeOwner {user : Bytes} {paths : List Bytes} {recursive : Bool}
    {outcome? : Option (Except Error ChangeResponse)}
    (admitted : (changeOwner sandbox user paths recursive).outcome.Admits events outcome?) :
    ∃ outcome, outcome? = some outcome ∧
      if paths = [] ∨ user = [] then Event.contacts events = [] ∧ ∃ error, outcome = .error error
      else sandbox.Tried [ownerCommand user paths recursive] (Event.contacts events)
        (outcome.map ChangeResponse.success) := by
  rcases refused_or_follows admitted with ⟨unpathed, rfl, error, rfl⟩ | ⟨pathed, follows⟩
  · exact ⟨_, rfl, by simp [unpathed]⟩
  · cases user with
    | nil =>
        obtain ⟨rfl, rfl⟩ := Program.admits_done_iff.mp follows
        exact ⟨_, rfl, by simp⟩
    | cons byte user =>
        simp only [pathed, reduceCtorEq, or_self, if_false]
        exact tried_of_apply follows

theorem Ownership.tried_of_changeMode {mode : Bytes} {paths : List Bytes} {recursive : Bool}
    {outcome? : Option (Except Error ChangeResponse)}
    (admitted : (changeMode sandbox mode paths recursive).outcome.Admits events outcome?) :
    ∃ outcome, outcome? = some outcome ∧
      if paths = [] then Event.contacts events = [] ∧ ∃ error, outcome = .error error
      else sandbox.Tried [modeCommand mode paths recursive] (Event.contacts events)
        (outcome.map ChangeResponse.success) := by
  rcases refused_or_follows admitted with ⟨unpathed, rfl, error, rfl⟩ | ⟨pathed, follows⟩
  · exact ⟨_, rfl, by simp [unpathed]⟩
  · simp only [pathed, if_false]
    exact tried_of_apply follows

/-- A command counts as successful exactly if its result has an exit code that is read as zero.  So it is
for every value that a result is read from, and for every operation that takes its verdict from one,
whatever the service and the clock do. -/
theorem success_reads_zero (sandbox : Sandbox) {State : Type} (world : World State) (state : State) :
    (∀ value : Json,
      (∀ observation, Observation.ofJson value = .ok observation →
        (observation.succeeded = true ↔ value.ReadsAsZero)) ∧
      (∀ response, CommandResponse.ofJson value = .ok response →
        (response.succeeded = true ↔ value.ReadsAsZero)) ∧
      (value.IsUtf8 → (∃ observation, Observation.ofJson value = .ok observation) ∧
        ∃ response, CommandResponse.ofJson value = .ok response)) ∧
    (∀ name,
      let run := (Account.isPresent sandbox name).outcome.run world state
      ∃ verdict, run.result? = some verdict ∧
        sandbox.Tried [Account.identification name] (Event.contacts run.events) verdict) ∧
    (∀ name,
      let run := (Account.create sandbox name).outcome.run world state
      ∃ verdict, run.result? = some verdict ∧
        sandbox.Tried [Account.identification name, Account.addition name]
          (Event.contacts run.events) verdict) ∧
    (∀ user paths recursive,
      let run := (Ownership.changeOwner sandbox user paths recursive).outcome.run world state
      ∃ outcome, run.result? = some outcome ∧
        if paths = [] ∨ user = [] then
          Event.contacts run.events = [] ∧ ∃ error, outcome = .error error
        else sandbox.Tried [Ownership.ownerCommand user paths recursive]
          (Event.contacts run.events) (outcome.map ChangeResponse.success)) ∧
    ∀ mode paths recursive,
      let run := (Ownership.changeMode sandbox mode paths recursive).outcome.run world state
      ∃ outcome, run.result? = some outcome ∧
        if paths = [] then Event.contacts run.events = [] ∧ ∃ error, outcome = .error error
        else sandbox.Tried [Ownership.modeCommand mode paths recursive]
          (Event.contacts run.events) (outcome.map ChangeResponse.success) := by
  refine ⟨fun value => ⟨?_, ?_, ?_⟩, ?_, ?_, ?_, ?_⟩
  · exact fun _ => Observation.succeeded_iff_of_ofJson
  · exact fun _ => CommandResponse.succeeded_iff_of_ofJson
  · intro valid
    obtain ⟨response, read, _⟩ := CommandResponse.ofJson_of_isUtf8 valid
    exact ⟨Observation.ofJson_of_isUtf8 valid, response, read⟩
  · exact fun _ => Account.tried_of_isPresent (Program.admits_run world _ state)
  · exact fun _ => Account.tried_of_create (Program.admits_run world _ state)
  · exact fun _ _ _ => Ownership.tried_of_changeOwner (Program.admits_run world _ state)
  · exact fun _ _ _ => Ownership.tried_of_changeMode (Program.admits_run world _ state)

/-- An account that is missing is added: the first command reports one, the second one zero. -/
theorem success_reads_zero_rehearsed :
    let sandbox : Sandbox := { config := { cpus := .finite false 1 0 }, routeKey := [], state := .alive,
                               id := utf8 "sb-1" }
    let missing := Rehearsal.success [(utf8 "exit_code", .integer 1)]
    let added := Rehearsal.success [(utf8 "exit_code", .integer 0)]
    let run := (Account.create sandbox (utf8 "guest")).outcome.run Rehearsal.world ⟨[missing, added], 0⟩
    run.result? = some (.ok true) ∧
      sandbox.Tried [Account.identification (utf8 "guest"), Account.addition (utf8 "guest")]
        (Event.contacts run.events) (.ok true) := by
  intro sandbox missing added run
  have ended : run.result? = some (.ok true) := by rfl
  obtain ⟨verdict, result_eq, tried⟩ := (success_reads_zero sandbox Rehearsal.world
    ⟨[missing, added], 0⟩).2.2.1 (utf8 "guest")
  cases Option.some.inj (ended.symm.trans result_eq)
  exact ⟨ended, tried⟩

/-- An exit code of `2 ^ 32` counts as success, and so does one of a half: an account passes for one that
is there, and a change for one that was made. -/
theorem success_despite_nonzero :
    let sandbox : Sandbox := { config := { cpus := .finite false 1 0 }, routeKey := [], state := .alive,
                               id := utf8 "sb-1" }
    let large := Json.integer (2 ^ 32)
    let half := Json.double (.finite false 1 (-1))
    (large.number? = some (2 ^ 32) ∧ half.number? = some (1 / 2)) ∧
    ∀ code ∈ [large, half],
      let answer := Rehearsal.success [(utf8 "exit_code", code)]
      let looked := (Account.isPresent sandbox (utf8 "guest")).outcome.run Rehearsal.world ⟨[answer], 0⟩
      let changed := (Ownership.changeMode sandbox (utf8 "600") [utf8 "/etc/key"] false).outcome.run
        Rehearsal.world ⟨[answer], 0⟩
      (∃ observation, Observation.ofJson (.object [(utf8 "exit_code", code)]) = .ok observation ∧
        observation.succeeded = true) ∧
      looked.result? = some (.ok true) ∧
      ∃ response, changed.result? = some (.ok response) ∧ response.success = true := by
  intro sandbox large half
  refine ⟨⟨?_, ?_⟩, ?_⟩
  · norm_num [large, Json.number?]
  · simp [half, Json.number?, Binary64.number?]
  · intro code member
    simp only [List.mem_cons, List.not_mem_nil, or_false] at member
    rcases member with rfl | rfl
    · exact ⟨⟨{ exitCode? := some 0 }, by rfl, by rfl⟩, by rfl, _, by rfl, by rfl⟩
    · exact ⟨⟨{ exitCode? := some 0 }, by rfl, by rfl⟩, by rfl, _, by rfl, by rfl⟩

end SandboxClient
