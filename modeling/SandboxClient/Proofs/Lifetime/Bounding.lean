import SandboxClient.Proofs.Decimal.Magnitude
import SandboxClient.Proofs.Lifetime.History
import SandboxClient.Proofs.Program.Rehearsal

/-!
# How long a call may take

Every request carries the longest time it may take, and the transfer library reads zero as no limit.  The
bounds come from constants, from the larger of a constant and what the caller asks for, from the time that
is left of a budget, and from a conversion to seconds and back.  All of them are positive.  The one bound
that nothing is done about is the one that a caller gives to a command in a session.
-/

namespace SandboxClient

/-- The times of a run, in seconds, are 32-bit integers. -/
def RunOptions.Fits (options : RunOptions) : Prop :=
  options.timeout < 2 ^ 31 ∧ options.waitInterval < 2 ^ 31

namespace Operation

/-- The times that are given to an operation, in seconds, are 32-bit integers. -/
def Fits : Operation → Prop
  | .run _ options | .runWithRetry _ options _ => options.Fits
  | .runScript script => script.options.Fits
  | _ => True

/-- The bound that an operation gives to a command in a session on behalf of the caller, in seconds. -/
def ownSeconds? : Operation → Option Float
  | .runInSession _ _ seconds? => seconds?
  | .run _ options | .runWithRetry _ options _ => some (Float.ofInt options.timeout)
  | _ => none

/-- The caller gives a command in a session a bound that is no positive number of milliseconds. -/
def Careless : Operation → Prop
  | .runInSession _ _ seconds? => Sandbox.sessionTimeout seconds? ≤ 0
  | .run _ options | .runWithRetry _ options _ => options.mode = .normal ∧ options.timeout ≤ 0
  | _ => False

end Operation

/-! ## Commands in a session -/

/-- What is left of the time for a process, or two intervals, is a positive number of milliseconds, and it
still is after it went through seconds. -/
theorem Detached.probeTimeout_bounded {options : RunOptions} {place : Place} {processId : Nat}
    {elapsed : Int} (fits : options.waitInterval < 2 ^ 31)
    (within : elapsed < (taskOf options place processId).budget) :
    0 < Clock.secondsToMillis
      (Clock.millisToSeconds ((taskOf options place processId).probeTimeout elapsed)) := by
  have least : leastInterval = 5 := rfl
  have positive : 0 < (taskOf options place processId).probeTimeout elapsed := by
    simp only [Task.probeTimeout, taskOf] at within ⊢
    omega
  have moderate : (taskOf options place processId).probeTimeout elapsed < 2 ^ 43 := by
    simp only [Task.probeTimeout, taskOf]
    omega
  exact Clock.secondsToMillis_millisToSeconds_pos positive moderate

theorem RunOptions.givesOnly_positive {options : RunOptions} (fits : options.Fits)
    (careful : options.mode = .normal → 0 < options.timeout) :
    options.GivesOnly fun seconds? => 0 < Sandbox.sessionTimeout seconds? := by
  rw [GivesOnly]
  cases mode : options.mode with
  | normal => exact Clock.secondsToMillis_ofInt_pos (careful mode) fits.1
  | detached =>
      have launches : 0 < Clock.secondsToMillis Detached.launchSeconds := by decide
      exact ⟨launches, by decide, fun place processId elapsed within =>
        Detached.probeTimeout_bounded fits.2 within⟩

theorem RunOptions.GivesOnly.mono {given allowed : Option Float → Prop} {options : RunOptions}
    (gives : options.GivesOnly given) (implies : ∀ seconds?, given seconds? → allowed seconds?) :
    options.GivesOnly allowed := by
  rw [GivesOnly] at gives ⊢
  cases mode : options.mode with
  | normal =>
      rw [mode] at gives
      exact implies _ gives
  | detached =>
      rw [mode] at gives
      obtain ⟨launches, reads, probes⟩ := gives
      exact ⟨implies _ launches, implies _ reads, fun place processId elapsed within =>
        implies _ (probes place processId elapsed within)⟩

namespace Operation

variable {operation : Operation} {sandbox : Sandbox} {request : Request}

/-- Commands in a session get a positive bound, or the one that a careless caller asks for. -/
theorem givesOnly_bounded (fits : operation.Fits) : operation.GivesOnly fun seconds? =>
    0 < Sandbox.sessionTimeout seconds? ∨ operation.Careless ∧ seconds? = operation.ownSeconds? := by
  have running : ∀ options : RunOptions, options.Fits →
      options.GivesOnly fun seconds? => 0 < Sandbox.sessionTimeout seconds? ∨
        (options.mode = .normal ∧ options.timeout ≤ 0) ∧
          seconds? = some (Float.ofInt options.timeout) := by
    intro options fits
    by_cases careless : options.mode = .normal ∧ options.timeout ≤ 0
    · have given : options.GivesOnly (· = some (Float.ofInt options.timeout)) := by
        rw [RunOptions.GivesOnly, careless.1]
      exact given.mono fun _ own => .inr ⟨careless, own⟩
    · have positive := RunOptions.givesOnly_positive fits fun normal =>
        Int.not_le.mp fun unbounded => careless ⟨normal, unbounded⟩
      exact positive.mono fun _ => .inl
  cases operation with
  | runInSession command session seconds? =>
      rcases Int.lt_or_le 0 (Sandbox.sessionTimeout seconds?) with positive | careless
      · exact .inl positive
      · exact .inr ⟨careless, rfl⟩
  | run command options => exact running options fits
  | runWithRetry command options policy => exact running options fits
  | runScript script =>
      have detached : script.options.mode = .normal → 0 < script.options.timeout := by
        intro normal
        cases normal
      rw [GivesOnly]
      exact (RunOptions.givesOnly_positive fits detached).mono fun _ => .inl
  | speedUp kind value timeout =>
      have fits : (Speedup.options timeout).Fits :=
        ⟨show (300 : Int) < 2 ^ 31 by decide, show (10 : Int) < 2 ^ 31 by decide⟩
      have detached : (Speedup.options timeout).mode = .normal →
          0 < (Speedup.options timeout).timeout := by
        intro normal
        cases normal
      rw [GivesOnly]
      exact (RunOptions.givesOnly_positive fits detached).mono fun _ => .inl
  | _ => trivial

/-! ## All calls -/

/-- A request carries a positive bound, unless it is the one that a careless caller gives a command in a
session. -/
def Bounded (sandbox : Sandbox) (operation : Operation) (request : Request) : Prop :=
  0 < request.timeout ∨ operation.Careless ∧ ∃ command session,
    request = sandbox.sessionRequest command session operation.ownSeconds?

theorem bounded_of_makes {errand : Errand} (makes : sandbox.Makes (fun seconds? =>
    0 < Sandbox.sessionTimeout seconds? ∨ operation.Careless ∧ seconds? = operation.ownSeconds?)
    errand request) : operation.Bounded sandbox request := by
  have constant : 0 < Sandbox.defaultTimeout := by decide
  cases makes with
  | execute command =>
      have larger : Sandbox.defaultTimeout ≤ max Sandbox.defaultTimeout (command.timeout * 1000) := by
        omega
      exact .inl (Int.lt_of_lt_of_le constant larger)
  | runInSession command session bound =>
      rcases bound with positive | ⟨careless, rfl⟩
      · exact .inl positive
      · exact .inr ⟨careless, command, session, rfl⟩
  | _ => exact .inl constant

theorem bounded_of_sends (sends : operation.Sends (fun seconds? =>
    0 < Sandbox.sessionTimeout seconds? ∨ operation.Careless ∧ seconds? = operation.ownSeconds?)
    sandbox request) : operation.Bounded sandbox request := by
  have constant : 0 < Sandbox.defaultTimeout := by decide
  cases operation with
  | start =>
      rcases sends with rfl | ⟨id, timeout, positive, rfl⟩
      · exact .inl constant
      · exact .inl positive
  | stop => exact .inl (sends ▸ constant)
  | close => exact .inl (sends ▸ constant)
  | status => exact .inl (sends ▸ constant)
  | liveness => exact .inl (sends ▸ constant)
  | _ => exact bounded_of_makes sends.2.choose_spec

end Operation

/-- After any operations, whatever the world answers, the next one makes no request without a positive
bound, except that of a careless caller. -/
theorem serve_bounds_calls {State Other : Type} (config : SandboxConfig) (freshKey logger : Bytes)
    (world : World State) (patience : Nat) (operations : List Operation) (state : State) (count : Nat)
    (next : Operation) (fits : next.Fits) (other : World Other) (rounds : Nat) (now : Other) :
    let sandbox := Sandbox.create config freshKey logger
    let deeds := (Sandbox.serve world patience operations sandbox state).take count
    let handle := Deed.handleAfter sandbox deeds
    let run := (next.perform rounds handle).run other now
    ∀ contact ∈ Event.contacts run.events, next.Bounded handle contact.request := by
  intro sandbox deeds handle run contact member
  have confined := Operation.confined_sends (Operation.givesOnly_bounded fits) handle rounds
  have admitted := Program.admits_run other (next.perform rounds handle) now
  exact Operation.bounded_of_sends (confined.permitted_of_admits admitted contact member)

/-- A detached run on a sandbox that was started: its session, its launch, one probe and the reading of its
output. -/
theorem serve_bounds_calls_rehearsed :
    let config : SandboxConfig := { cpus := .finite false 1 0 }
    let sandbox := Sandbox.create config []
    let granted := Rehearsal.success [(utf8 "sandbox_id", .string (utf8 "sb-1"))]
    let alive := Rehearsal.success [(utf8 "is_alive", .boolean true)]
    let world := Rehearsal.timetable granted fun _ => alive
    let deeds := (Sandbox.serve world 2 [.start] sandbox 0).take 1
    let handle := Deed.handleAfter sandbox deeds
    let next := Operation.run (utf8 "make") { mode := .detached, waitTimeout := 12, waitInterval := 0 }
    let run := (next.perform 3 handle).run Rehearsal.world ⟨[
      Rehearsal.success [],
      Rehearsal.success [(utf8 "exit_code", .integer 0),
        (utf8 "output", .string (utf8 "__ROCK_PID_START__42__ROCK_PID_END__"))],
      Rehearsal.success [(utf8 "exit_code", .integer 1)],
      Rehearsal.success [(utf8 "exit_code", .integer 0)]], 0⟩
    next.Fits ∧
      (Event.contacts run.events).map (fun contact => contact.request.timeout) =
        [300000, 30000, 10000, 300000] ∧
      ∀ contact ∈ Event.contacts run.events, next.Bounded handle contact.request := by
  intro config sandbox granted alive world deeds handle next run
  have fits : next.Fits := ⟨show (300 : Int) < 2 ^ 31 by decide, show (0 : Int) < 2 ^ 31 by decide⟩
  exact ⟨fits, by decide +kernel, serve_bounds_calls config [] sandboxLogger world 2 [.start] 0 1 next fits
    Rehearsal.world 3 _⟩

/-- A command with a timeout of zero seconds, on a sandbox that was started: its request has no limit. -/
theorem serve_leaves_call_unbounded :
    let sandbox := Sandbox.create { cpus := .finite false 1 0 } []
    let granted := Rehearsal.success [(utf8 "sandbox_id", .string (utf8 "sb-1"))]
    let alive := Rehearsal.success [(utf8 "is_alive", .boolean true)]
    let world := Rehearsal.timetable granted fun _ => alive
    let deeds := (Sandbox.serve world 2 [.start] sandbox 0).take 1
    let handle := Deed.handleAfter sandbox deeds
    let next := Operation.run (utf8 "make") { timeout := 0 }
    let run := (next.perform 1 handle).run world 0
    sandbox.config.validate = .ok () ∧ handle.state = .alive ∧
      ∃ contact ∈ Event.contacts run.events, contact.request.timeout = 0 ∧
        contact.request.url = handle.endpointUrl (utf8 "run_in_session") := by
  intro sandbox granted alive world deeds handle next run
  let started : Sandbox := { sandbox with state := .alive, id := utf8 "sb-1" }
  have handle_eq : handle = started := by rfl
  -- for a timeout that is not known the calls are found without any arithmetic
  have calls : ∀ timeout : Int,
      Event.contacts (((Operation.run (utf8 "make") { timeout }).perform 1 started).run world 0).events =
        [⟨started.creationRequest { session := utf8 "default" }, granted⟩,
          ⟨started.sessionRequest (utf8 "make") (utf8 "default") (some (Float.ofInt timeout)), granted⟩] :=
    fun timeout => by rfl
  have bound : ∀ seconds, (started.sessionRequest (utf8 "make") (utf8 "default") (some seconds)).timeout =
      Clock.secondsToMillis seconds := fun _ => rfl
  have unlimited : Clock.secondsToMillis (Float.ofInt 0) = 0 := by decide +kernel
  refine ⟨by rfl, by rfl, ?_⟩
  simp only [run, handle_eq, next, calls 0]
  exact ⟨_, .tail _ (.head _), (bound _).trans unlimited, rfl⟩

end SandboxClient
