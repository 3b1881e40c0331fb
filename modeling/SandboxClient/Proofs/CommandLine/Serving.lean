import SandboxClient.CommandLine.Session
import SandboxClient.Proofs.Lifetime.Stopping
import SandboxClient.Proofs.Sandbox.Ending

/-!
# Starting, running and stopping

The part of the program that calls the service: a start, the command if the start succeeded, and a stop
whatever came before.  The calls are accounted for by those three, and the exit code by how the start and
the command ended.
-/

namespace SandboxClient

open Event (Trimmed)

variable {patience : Nat} {sandbox started : Sandbox} {events : List Event}

/-! ## Timed operations -/

theorem silent_logOutcome {Result : Type} (logger label : Bytes) (start : Int)
    (outcome : Except Error Result) : (logOutcome logger label start outcome).Silent fun _ => True := by
  refine ⟨trivial, fun reading => ?_⟩
  cases outcome with
  | ok result => exact ⟨trivial, fun _ => trivial⟩
  | error error => exact ⟨trivial, fun _ => trivial⟩

/-- A timed operation makes the calls of the operation and has its result. -/
theorem admits_of_timed {Result State : Type} {logger sandboxId operation : Bytes}
    {program : Program (Except Error Result × State)} {result? : Option (Except Error Result × State)}
    (admitted : (timed logger sandboxId operation program).Admits events result?) :
    ∃ own, program.Admits own result? ∧ Trimmed own events := by
  obtain ⟨_, _, rfl, started⟩ := Program.admits_act_iff.mp admitted
  obtain ⟨_, rest, rfl, follows⟩ := Program.admits_act_iff.mp started
  rw [Program.pure_bind] at follows
  obtain ⟨own, _, inner, trimmed, rfl⟩ := Program.admits_of_bind_silent id follows
    fun ⟨outcome, _⟩ => (silent_logOutcome _ _ _ outcome).bind fun _ _ => rfl
  exact ⟨own, by simpa using inner, trimmed.cons.cons⟩

namespace CommandLine

variable {options : Options}

/-! ## The command -/

/-- The exit code of the program after a command that came to an end: that of the command if it has one. -/
def exitCodeOf : Except Error Observation → Int
  | .ok observation => (observation.exitCode?.map Int32.toInt).getD failed
  | .error _ => failed

theorem silent_present (observation : Observation) :
    (present observation).Silent (· = exitCodeOf (.ok observation)) := by
  refine ⟨trivial, fun _ => ?_⟩
  simp only [Program.pure_bind, exitCodeOf]
  cases observation.exitCode? with
  | some code =>
      split
      · exact ⟨trivial, fun _ => rfl⟩
      · exact rfl
  | none =>
      split
      · exact ⟨trivial, fun _ => rfl⟩
      · exact rfl

theorem silent_report (error : Error) : (report error).Silent (· = failed) := by
  rw [report]
  split
  · exact ⟨trivial, fun _ => ⟨trivial, fun _ => rfl⟩⟩
  · exact ⟨trivial, fun _ => rfl⟩

/-- What becomes of the command decides the exit code. -/
theorem admits_of_attend {code? : Option Int}
    (admitted : (attend patience sandbox options).Admits events code?) :
    ∃ own outcome?, (runCommand patience sandbox options).outcome.Admits own outcome? ∧
      Trimmed own events ∧ code? = outcome?.map exitCodeOf := by
  obtain ⟨_, rest, rfl, follows⟩ := Program.admits_act_iff.mp admitted
  rw [Program.pure_bind] at follows
  obtain ⟨own, outcome?, command, trimmed, code_eq⟩ :=
    Program.admits_of_bind_silent exitCodeOf follows fun outcome => by
      cases outcome with
      | ok observation => exact silent_present observation
      | error error => exact silent_report error
  exact ⟨own, outcome?, command, trimmed.cons, code_eq⟩

theorem confined_runCommand (patience : Nat) (sandbox : Sandbox) (options : Options) :
    (runCommand patience sandbox options).outcome.Confined (sandbox.Does fun _ => True) := by
  have run := options.run.givesOnly_any
  rw [runCommand]
  split
  · exact sandbox.confined_runWithRetry patience _ run _
  · exact sandbox.confined_run patience _ run

/-! ## The three parts -/

/-- What starting a sandbox, running the command in it and stopping it again comes to: the handle after a
start that succeeded, the events of the three, and the exit code, which is missing if one never ends. -/
inductive Served (patience : Nat) (options : Options) (sandbox : Sandbox) :
    Option Sandbox → List Event → Option Int → Prop
  | startless {events : List Event} (starting : (sandbox.start patience).Admits events none) :
      Served patience options sandbox none events none
  | unstarted {error : Error} {after : Sandbox} {events : List Event}
      (starting : (sandbox.start patience).Admits events (some (.error error, after))) :
      Served patience options sandbox none events (some failed)
  | endless {started : Sandbox} {first second : List Event}
      (starting : (sandbox.start patience).Admits first (some (.ok (), started)))
      (command : (runCommand patience started options).outcome.Admits second none) :
      Served patience options sandbox (some started) (first ++ second) none
  | stopped {started after : Sandbox} {first second third : List Event}
      {outcome : Except Error Observation}
      (starting : (sandbox.start patience).Admits first (some (.ok (), started)))
      (command : (runCommand patience started options).outcome.Admits second (some outcome))
      (stopping : started.stop.Admits third (some after)) :
      Served patience options sandbox (some started) (first ++ second ++ third)
        (some (exitCodeOf outcome))

theorem id_eq_nil_of_unstarted {error : Error} {after : Sandbox} (idle : sandbox.state ≠ .alive)
    (vacant : sandbox.id = [])
    (starting : (sandbox.start patience).Admits events (some (.error error, after))) : after.id = [] := by
  rcases Sandbox.start_cases starting with ⟨alive, _⟩ | ⟨_, _, rfl, _⟩ |
    ⟨_, ⟨_, rfl⟩ | ⟨impossible, _⟩⟩
  · exact absurd alive idle
  · exact vacant
  · rfl
  · cases impossible

/-- On a handle that was not started, the program does what the three parts do. -/
theorem served_of_admits {code? : Option Int} (idle : sandbox.state ≠ .alive) (vacant : sandbox.id = [])
    (admitted : (serve patience options sandbox).Admits events code?) :
    ∃ started? own, Served patience options sandbox started? own code? ∧ Trimmed own events := by
  obtain ⟨_, rest, rfl, follows⟩ := Program.admits_act_iff.mp admitted
  rw [Program.pure_bind] at follows
  rcases Program.admits_bind_iff.mp follows with
    ⟨⟨outcome, handle⟩, first, later, rfl, starts, follows⟩ | ⟨stalls, rfl⟩
  · obtain ⟨own, starting, trimmed⟩ := admits_of_timed starts
    cases outcome with
    | error error =>
        obtain ⟨code, second, third, rfl, _, silent, rfl, follows⟩ := (silent_report error).split follows
        obtain ⟨after?, stopping, rfl⟩ := Program.admits_of_map follows
        -- there is nothing to stop
        have gone := id_eq_nil_of_unstarted idle vacant starting
        rcases Sandbox.stop_cases stopping with ⟨_, rfl, rfl⟩ | ⟨⟨identified, _⟩, _⟩
        · refine ⟨none, own, .unstarted starting, ?_⟩
          exact (trimmed.before (by simp [silent])).cons
        · exact absurd gone identified
    | ok _ =>
        rcases Program.admits_bind_iff.mp follows with
          ⟨code, second, third, rfl, attended, follows⟩ | ⟨stalls, rfl⟩
        · obtain ⟨inner, outcome?, command, within, ended⟩ := admits_of_attend attended
          obtain ⟨outcome, rfl, rfl⟩ := Option.map_eq_some_iff.mp ended.symm
          obtain ⟨after?, stopping, rfl⟩ := Program.admits_of_map follows
          have parts : Trimmed (own ++ inner ++ third) (first ++ second ++ third) :=
            (trimmed.append within).append (.refl third)
          obtain ⟨after, rfl⟩ : ∃ after, after? = some after := by
            rcases Sandbox.stop_cases stopping with ⟨_, _, rfl⟩ | ⟨_, _, rfl⟩ <;> exact ⟨_, rfl⟩
          refine ⟨some handle, _, .stopped starting command stopping, ?_⟩
          simpa using parts.cons
        · obtain ⟨inner, outcome?, command, within, ended⟩ := admits_of_attend stalls
          obtain rfl := Option.map_eq_none_iff.mp ended.symm
          exact ⟨some handle, _, .endless starting command,
            (trimmed.append within).cons⟩
  · obtain ⟨own, starting, trimmed⟩ := admits_of_timed stalls
    exact ⟨none, own, .startless starting, trimmed.cons⟩

/-! ## The calls -/

def startEndpoint : Bytes :=
  utf8 "start_async"

/-- What became of the sandbox that the program started, if it did. -/
structure Released (sandbox : Sandbox) (started? : Option Sandbox) (calls : List Contact)
    (code? : Option Int) : Prop where
  starts_le_one : sandbox.callsTo startEndpoint calls ≤ 1
  /-- A sandbox that was started is the one that the answer to the first call grants. -/
  granted : ∀ started ∈ started?, ∃ answer placement,
    calls.head? = some ⟨sandbox.scheduleRequest, answer⟩ ∧
      Sandbox.grantedPlacement? answer = some placement ∧
      started.stopRequest.identity? = some placement.id
  /-- There is one call that stops a sandbox, once the command has ended in one that was started, and
  otherwise none. -/
  stops_eq : sandbox.stopCalls calls = if started?.isSome ∧ code?.isSome then 1 else 0
  /-- Nothing is called after the sandbox was stopped. -/
  stop_last : ∀ started ∈ started?, code?.isSome →
    ∃ answer, calls.getLast? = some ⟨started.stopRequest, answer⟩

theorem starts_le_one_of_start {result? : Option (Except Error Unit × Sandbox)}
    (starting : (sandbox.start patience).Admits events result?) :
    sandbox.callsTo startEndpoint (Event.contacts events) ≤ 1 := by
  rcases Sandbox.contacts_start starting with silent | ⟨_, answer, looks, calls, asked⟩
  · simp [silent]
  · have elsewhere : sandbox.callsTo startEndpoint looks = 0 := by
      refine Sandbox.callsTo_eq_zero fun look member same => ?_
      obtain ⟨id, timeout, request_eq⟩ := asked look member
      rw [request_eq] at same
      have letter := congrArg List.head? (Sandbox.endpointUrl_inj.mp same)
      cases letter
    rw [calls, ← List.singleton_append, Sandbox.callsTo_append, elsewhere]
    exact List.countP_le_length

theorem stops_eq_zero_of_start {result? : Option (Except Error Unit × Sandbox)}
    (starting : (sandbox.start patience).Admits events result?) :
    sandbox.stopCalls (Event.contacts events) = 0 :=
  have asked : (Operation.start.perform patience sandbox).Admits events result? := starting
  Operation.stopCalls_eq_zero rfl asked

/-- A command starts no sandbox and stops none. -/
theorem calls_of_runCommand {outcome? : Option (Except Error Observation)}
    (command : (runCommand patience started options).outcome.Admits events outcome?) :
    started.callsTo startEndpoint (Event.contacts events) = 0 ∧
      started.stopCalls (Event.contacts events) = 0 := by
  have served := ((confined_runCommand patience started options).mono fun _ =>
    Sandbox.serves_of_does).allowed_of_admits command
  constructor
  · exact Sandbox.callsTo_eq_zero_of_serves served fun errand _ => Sandbox.endpoint_ne_start errand
  · exact Sandbox.callsTo_eq_zero_of_serves served fun errand other same =>
      other (Sandbox.endpoint_inj.mp same)

/-- A start that succeeds settles the handle where the answer to its first call grants. -/
theorem settled_of_start (idle : sandbox.state ≠ .alive)
    (starting : (sandbox.start patience).Admits events (some (.ok (), started))) :
    ∃ answer placement status,
      (Event.contacts events).head? = some ⟨sandbox.scheduleRequest, answer⟩ ∧
      Sandbox.grantedPlacement? answer = some placement ∧
      started = sandbox.settledAt placement status := by
  rcases Sandbox.start_cases starting with ⟨alive, _⟩ | ⟨_, ⟨_, impossible⟩, _⟩ |
    ⟨_, ⟨⟨_, impossible⟩, _⟩ | ⟨_, settled⟩⟩
  · exact absurd alive idle
  · cases impossible
  · cases impossible
  · exact settled

theorem isLive_of_start (idle : sandbox.state ≠ .alive)
    (starting : (sandbox.start patience).Admits events (some (.ok (), started))) : started.IsLive := by
  obtain ⟨_, _, _, _, grants, rfl⟩ := settled_of_start idle starting
  exact ⟨rfl, Sandbox.id_ne_nil_of_grantedPlacement? grants⟩

theorem call_of_stop (live : started.IsLive) {after? : Option Sandbox}
    (stopping : started.stop.Admits events after?) :
    ∃ answer, Event.contacts events = [⟨started.stopRequest, answer⟩] := by
  rcases Sandbox.stop_cases stopping with ⟨vacant | ended, _⟩ | ⟨_, only, _⟩
  · exact absurd vacant live.2
  · rw [live.1] at ended
    cases ended
  · exact only

theorem calls_of_stopRequest (started : Sandbox) (answer : Except Error Json) :
    started.callsTo startEndpoint [⟨started.stopRequest, answer⟩] = 0 ∧
      started.stopCalls [⟨started.stopRequest, answer⟩] = 1 := by
  constructor
  · refine Sandbox.callsTo_eq_zero fun call member same => ?_
    obtain rfl := List.mem_singleton.mp member
    exact Sandbox.endpoint_ne_start .stop (Sandbox.endpointUrl_inj.mp same)
  · simp [Sandbox.stopCalls, Sandbox.callsTo, Sandbox.stopRequest, Sandbox.postRequest, Errand.endpoint]

theorem Served.released {started? : Option Sandbox} {code? : Option Int}
    (served : Served patience options sandbox started? events code?) (idle : sandbox.state ≠ .alive) :
    Released sandbox started? (Event.contacts events) code? := by
  have granted : ∀ {started : Sandbox} {first : List Event} {later : List Contact},
      (sandbox.start patience).Admits first (some (.ok (), started)) →
      ∃ answer placement,
        (Event.contacts first ++ later).head? = some ⟨sandbox.scheduleRequest, answer⟩ ∧
          Sandbox.grantedPlacement? answer = some placement ∧
          started.stopRequest.identity? = some placement.id := by
    intro started first later starting
    obtain ⟨answer, placement, _, head_eq, grants, rfl⟩ := settled_of_start idle starting
    exact ⟨answer, placement, by simp [List.head?_append, head_eq], grants, rfl⟩
  -- the handle keeps the configuration that it was started with, so it has the same endpoints
  have alike : ∀ {started : Sandbox} {first : List Event},
      (sandbox.start patience).Admits first (some (.ok (), started)) →
      started.callsTo = sandbox.callsTo := by
    intro started first starting
    obtain ⟨_, _, _, _, _, rfl⟩ := settled_of_start idle starting
    exact Sandbox.callsTo_eq_of_config_eq rfl
  cases served with
  | startless starting =>
      exact ⟨starts_le_one_of_start starting, by simp, by simp [stops_eq_zero_of_start starting],
        by simp⟩
  | unstarted starting =>
      exact ⟨starts_le_one_of_start starting, by simp, by simp [stops_eq_zero_of_start starting],
        by simp⟩
  | endless starting command =>
      obtain ⟨unstarting, unstopping⟩ := calls_of_runCommand command
      rw [Sandbox.stopCalls] at unstopping
      rw [alike starting] at unstarting unstopping
      rw [Event.contacts_append]
      refine ⟨?_, ?_, ?_, by simp⟩
      · rw [Sandbox.callsTo_append, unstarting]
        exact starts_le_one_of_start starting
      · rintro _ ⟨⟩
        exact granted starting
      · simp [unstopping, stops_eq_zero_of_start starting]
  | @stopped started after first second third outcome starting command stopping =>
      obtain ⟨unstarting, unstopping⟩ := calls_of_runCommand command
      obtain ⟨answer, only⟩ := call_of_stop (isLive_of_start idle starting) stopping
      obtain ⟨startless, released⟩ := calls_of_stopRequest started answer
      rw [Sandbox.stopCalls] at unstopping released
      rw [alike starting] at unstarting unstopping startless released
      rw [Event.contacts_append, Event.contacts_append, only, List.append_assoc]
      refine ⟨?_, ?_, ?_, ?_⟩
      · rw [Sandbox.callsTo_append, Sandbox.callsTo_append, unstarting, startless]
        exact starts_le_one_of_start starting
      · rintro _ ⟨⟩
        exact granted starting
      · simp [unstopping, released, stops_eq_zero_of_start starting]
      · rintro _ ⟨⟩ _
        exact ⟨answer, by simp⟩

theorem startCalls_of_start {result? : Option (Except Error Unit × Sandbox)}
    (starting : (sandbox.start patience).Admits events result?) :
    (∀ call ∈ (Event.contacts events).head?, call.request = sandbox.scheduleRequest) ∧
      ∀ call ∈ Event.contacts events, ∃ endpoint, call.request.url = sandbox.endpointUrl endpoint := by
  rcases Sandbox.contacts_start starting with silent | ⟨_, answer, looks, calls, asked⟩
  · simp [silent]
  · rw [calls]
    refine ⟨by simp, List.forall_mem_cons.mpr ⟨⟨_, rfl⟩, ?_⟩⟩
    intro look member
    obtain ⟨id, timeout, request_eq⟩ := asked look member
    exact ⟨_, congrArg Request.url request_eq⟩

/-- All calls go to the service of the configuration, and the first one starts a sandbox. -/
theorem Served.calls {started? : Option Sandbox} {code? : Option Int}
    (served : Served patience options sandbox started? events code?) (idle : sandbox.state ≠ .alive) :
    (∀ call ∈ (Event.contacts events).head?, call.request = sandbox.scheduleRequest) ∧
      ∀ call ∈ Event.contacts events, ∃ endpoint, call.request.url = sandbox.endpointUrl endpoint := by
  have followed : ∀ {started : Sandbox} {first : List Event} {others : List Contact},
      (sandbox.start patience).Admits first (some (.ok (), started)) →
      (∀ call ∈ others, ∃ endpoint, call.request.url = started.endpointUrl endpoint) →
      (∀ call ∈ (Event.contacts first ++ others).head?, call.request = sandbox.scheduleRequest) ∧
        ∀ call ∈ Event.contacts first ++ others, ∃ endpoint,
          call.request.url = sandbox.endpointUrl endpoint := by
    intro started first others starting directed
    obtain ⟨answer, placement, status, head_eq, _, rfl⟩ := settled_of_start idle starting
    constructor
    · simp [List.head?_append, head_eq]
    · exact List.forall_mem_append.mpr ⟨(startCalls_of_start starting).2, directed⟩
  have commanded : ∀ {started : Sandbox} {second : List Event} {outcome?},
      (runCommand patience started options).outcome.Admits second outcome? →
      ∀ call ∈ Event.contacts second, ∃ endpoint, call.request.url = started.endpointUrl endpoint := by
    intro started second outcome? command call member
    obtain ⟨live, errand, makes⟩ :=
      (confined_runCommand patience started options).permitted_of_admits command call member
    exact ⟨errand.endpoint, (makes.runs live).2.url_eq⟩
  cases served with
  | startless starting => exact startCalls_of_start starting
  | unstarted starting => exact startCalls_of_start starting
  | endless starting command =>
      rw [Event.contacts_append]
      exact followed starting (commanded command)
  | @stopped started after first second third outcome starting command stopping =>
      obtain ⟨answer, only⟩ := call_of_stop (isLive_of_start idle starting) stopping
      rw [Event.contacts_append, Event.contacts_append, List.append_assoc]
      refine followed starting (List.forall_mem_append.mpr ⟨commanded command, ?_⟩)
      rw [only]
      exact List.forall_mem_singleton.mpr ⟨_, rfl⟩

/-! ## What may be done -/

/-- What may be done while a session lasts.  Nothing is transferred yet, and logging stays set up. -/
def InSession : Action → Prop
  | .acquire _ | .transfer _ | .openLogging _ | .closeLogging => False
  | _ => True

theorem inSession_of_within {permitted : Request → Prop} {action : Action}
    (within : action.Within permitted) : InSession action := by
  cases action with
  | print stream text => trivial
  | request made => trivial
  | _ => exact within

theorem confined_present (observation : Observation) : (present observation).Confined InSession := by
  refine ⟨trivial, fun _ => ?_⟩
  simp only [Program.pure_bind]
  cases observation.exitCode? with
  | some code =>
      split
      · exact ⟨trivial, fun _ => trivial⟩
      · trivial
  | none =>
      split
      · exact ⟨trivial, fun _ => trivial⟩
      · trivial

theorem confined_report (error : Error) : (report error).Confined InSession := by
  rw [report]
  split
  · exact ⟨trivial, fun _ => ⟨trivial, fun _ => trivial⟩⟩
  · exact ⟨trivial, fun _ => trivial⟩

theorem confined_attend : (attend patience sandbox options).Confined InSession := by
  have command : (runCommand patience sandbox options).outcome.Confined InSession :=
    (confined_runCommand patience sandbox options).mono fun _ => inSession_of_within
  refine ⟨trivial, fun _ => command.bind fun outcome => ?_⟩
  cases outcome with
  | ok observation => exact confined_present observation
  | error error => exact confined_report error

theorem confined_serve : (serve patience options sandbox).Confined InSession := by
  have starting := (sandbox.confined_start (fun _ _ => id) patience).mono fun _ => inSession_of_within
  refine ⟨trivial, fun _ => (confined_timed (fun _ => trivial) trivial starting _ _ _).bind ?_⟩
  rintro ⟨outcome, handle⟩
  have finished : ∀ code : Int, (handle.stop.bind fun _ => .done code).Confined InSession := by
    intro code
    exact (handle.confined_stop.mono fun _ => inSession_of_within).bind fun _ => trivial
  cases outcome with
  | ok _ => exact confined_attend.bind finished
  | error error => exact (confined_report error).bind finished

/-! ## The end -/

/-- Patience for the two timeouts of the options. -/
structure Patient (patience : Nat) (options : Options) (sandbox : Sandbox) : Prop where
  startup : sandbox.config.startupTimeout.toNat < patience
  wait : options.run.waitTimeout.toNat < patience

theorem runCommand_endsInTime (enough : options.run.waitTimeout.toNat < patience) :
    (runCommand patience started options).outcome.EndsInTime := by
  rw [runCommand]
  split
  · exact Sandbox.runWithRetry_endsInTime enough _
  · exact Sandbox.run_endsInTime enough

theorem Served.endsInTime {started? : Option Sandbox} {code? : Option Int}
    (served : Served patience options sandbox started? events code?)
    (patient : Patient patience options sandbox) (passes : Event.TimePasses events) : code?.isSome := by
  cases served with
  | startless starting =>
      exact absurd starting (Sandbox.start_endsInTime patient.startup _ passes)
  | unstarted starting => rfl
  | endless starting command =>
      exact absurd command
        (runCommand_endsInTime patient.wait _ (passes.sublist (List.sublist_append_right _ _)))
  | stopped starting command stopping => rfl

end CommandLine

end SandboxClient
