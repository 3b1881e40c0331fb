import SandboxClient.Proofs.Group.History
import SandboxClient.Proofs.Log.Observation
import SandboxClient.Proofs.Program.Rehearsal

/-!
# Clients

What a caller does with the library: one call after the other, each of which may depend on what came of
those before.  A client never sets up logging, so that its runs at two levels do the same.
-/

namespace SandboxClient

namespace Operation

/-- What an operation answers if it does not fail. -/
abbrev Answer : Operation → Type
  | .status => SandboxStatus
  | .liveness => Liveness
  | .execute _ => CommandResponse
  | .createSession _ => SessionResponse
  | .runInSession _ _ _ | .run _ _ | .runWithRetry _ _ _ => Observation
  | .runScript _ | .speedUp _ _ _ => Observation
  | .putFile _ _ => WriteFileResponse
  | .getFile _ _ _ => Bytes
  | .upload _ _ => UploadResponse
  | .changeOwner _ _ _ | .changeMode _ _ _ => ChangeResponse
  | .userPresent _ | .createUser _ => Bool
  | _ => Unit

def answering {Result : Type} (sandbox : Sandbox) (attempt : Attempt Result) :
    Program (Except Error Result × Sandbox) :=
  attempt.outcome.bind fun outcome => .done (outcome, sandbox)

/-- The program of an operation with all that it answers, and the handle afterwards. -/
def carryOut (patience : Nat) (sandbox : Sandbox) :
    (operation : Operation) → Program (Except Error operation.Answer × Sandbox)
  | .start => sandbox.start patience
  | .stop | .close => sandbox.stop.bind fun after => .done (.ok (), after)
  | .status => answering sandbox sandbox.status
  | .liveness => answering sandbox sandbox.liveness
  | .execute command => answering sandbox (sandbox.execute command)
  | .createSession request => answering sandbox (sandbox.createSession request)
  | .closeSession session => answering sandbox (sandbox.closeSession session)
  | .runInSession command session seconds? =>
    answering sandbox (sandbox.runInSession command session seconds?)
  | .run command options => answering sandbox (sandbox.run patience command options)
  | .runWithRetry command options policy =>
    answering sandbox (sandbox.runWithRetry patience command options policy)
  | .putFile path content => answering sandbox (sandbox.putFile path content)
  | .getFile path encoding errors => answering sandbox (sandbox.getFile path encoding errors)
  | .upload source target => answering sandbox (sandbox.upload source target)
  | .runScript script => answering sandbox (script.execute patience sandbox)
  | .changeOwner user paths recursive =>
    answering sandbox (Ownership.changeOwner sandbox user paths recursive)
  | .changeMode mode paths recursive =>
    answering sandbox (Ownership.changeMode sandbox mode paths recursive)
  | .userPresent name => answering sandbox (Account.isPresent sandbox name)
  | .createUser name => answering sandbox (Account.create sandbox name)
  | .speedUp kind value timeout => answering sandbox (Speedup.apply patience sandbox kind value timeout)

theorem perform_eq_carryOut (patience : Nat) (sandbox : Sandbox) (operation : Operation) :
    operation.perform patience sandbox = (operation.carryOut patience sandbox).bind fun carried =>
      .done (carried.1.map fun _ => (), carried.2) := by
  have forgetting : ∀ {Result : Type} (attempt : Attempt Result),
      keeping sandbox attempt = (answering sandbox attempt).bind fun carried =>
        .done (carried.1.map fun _ => (), carried.2) := by
    intro Result attempt
    rw [keeping, answering, Program.bind_assoc]
    rfl
  have unchanged : (fun carried : Except Error Unit × Sandbox =>
      Program.done (carried.1.map fun _ => (), carried.2)) = .done := by
    funext carried
    obtain ⟨outcome, after⟩ := carried
    cases outcome <;> rfl
  cases operation with
  | start => exact ((congrArg _ unchanged).trans (Program.bind_done _)).symm
  | stop => exact ((congrArg _ unchanged).trans (Program.bind_done _)).symm
  | close => exact ((congrArg _ unchanged).trans (Program.bind_done _)).symm
  | _ => exact forgetting _

theorem confined_carryOut (patience : Nat) (sandbox : Sandbox) (operation : Operation) :
    (operation.carryOut patience sandbox).Confined (Action.Within fun _ => True) := by
  have confined := confined_sends operation.givesOnly_any sandbox patience
  rw [perform_eq_carryOut, Program.confined_map_iff] at confined
  exact confined.mono fun _ within => within.mono fun _ _ => trivial

end Operation

/-- A group does what starting and stopping one of its members may do. -/
theorem GroupOperation.confined_perform {permitted : Request → Prop} {patience : Nat}
    (starts : ∀ member, (Sandbox.start patience member).Confined (Action.Within permitted))
    (stops : ∀ member, permitted (Sandbox.stopRequest member)) (group : Group)
    (operation : GroupOperation) :
    (operation.perform patience group).Confined (Action.Within permitted) := by
  cases operation with
  | start => exact Group.confined_start starts group
  | stop => exact (Group.confined_stop fun member _ => stops member).bind fun _ => trivial

/-! ## Calls -/

/-- A call of the library by which no tasks are made. -/
inductive LibraryCall where
  | operate (sandbox : Sandbox) (operation : Operation)
  /-- Tries an operation under a policy, each time on the handle that the time before left. -/
  | retry (policy : Backoff) (logger? : Option Bytes) (sandbox : Sandbox) (operation : Operation)
  /-- Notes how long an operation took. -/
  | timed (logger sandboxId label : Bytes) (sandbox : Sandbox) (operation : Operation)
  | release (sandbox : Sandbox)
  | createGroup (config : GroupConfig) (freshKey : Nat → Bytes) (logger : Bytes)

namespace LibraryCall

abbrev Answer : LibraryCall → Type
  | .operate _ operation | .retry _ _ _ operation | .timed _ _ _ _ operation =>
    Except Error operation.Answer × Sandbox
  | .release _ => Unit
  | .createGroup _ _ _ => Except Error Group

def program (patience : Nat) : (call : LibraryCall) → Program call.Answer
  | .operate sandbox operation => operation.carryOut patience sandbox
  | .retry policy logger? sandbox operation =>
    SandboxClient.retry policy logger? (operation.carryOut patience ·) sandbox
  | .timed logger sandboxId label sandbox operation =>
    SandboxClient.timed logger sandboxId label (operation.carryOut patience sandbox)
  | .release sandbox => sandbox.release
  | .createGroup config freshKey logger => Group.create config freshKey logger

/-- A call does what its operation may do on any handle. -/
theorem confined_program {permitted : Request → Prop} {patience : Nat}
    (operates : ∀ (operation : Operation) (sandbox : Sandbox),
      (operation.carryOut patience sandbox).Confined (Action.Within permitted)) (call : LibraryCall) :
    (call.program patience).Confined (Action.Within permitted) := by
  cases call with
  | operate sandbox operation => exact operates operation sandbox
  | retry policy logger? sandbox operation =>
      exact confined_retry (operates operation) policy logger? sandbox
  | timed logger sandboxId label sandbox operation =>
      exact confined_timed (fun _ => trivial) trivial (operates operation sandbox) logger sandboxId label
  | release sandbox =>
      simp only [program, Sandbox.release]
      split
      · exact ⟨trivial, fun _ => trivial⟩
      · trivial
  | createGroup config freshKey logger =>
      simp only [program, Group.create]
      split
      · trivial
      · exact ⟨trivial, fun _ => trivial⟩

end LibraryCall

/-- A caller of the library. -/
inductive Client (Result : Type) where
  | done (result : Result)
  | make (call : LibraryCall) (next : call.Answer → Client Result)
  /-- Starts or stops a group whose members act in the order of the schedules. -/
  | callGroup (group : Group) (operation : GroupOperation) (schedules : Nat → List Nat)
      (next : Except Error Unit × Group → Client Result)

/-- What follows on a run, if it came to an end. -/
def GroupRun.andThen {Result Other State : Type} (first : GroupRun Result State)
    (next : Result → State → GroupRun Other State) : GroupRun Other State :=
  match first.result? with
  | none => ⟨none, first.events, first.state⟩
  | some result =>
    let rest := next result first.state
    { rest with events := first.events ++ rest.events }

namespace Client

variable {Result State Outside : Type}

/-- The run of a client.  It comes to its end if every call does. -/
def run (world : GroupWorld State) (patience : Nat) : Client Result → State → GroupRun Result State
  | .done result, state => ⟨some result, [], state⟩
  | .make call next, state =>
    let own := (call.program patience).run (world.seenBy .group) state
    GroupRun.andThen ⟨own.result?, own.events.map fun event => (.group, event), own.state⟩
      fun answer state => (next answer).run world patience state
  | .callGroup group operation schedules next, state =>
    ((operation.perform patience group).runFrom world schedules 0 state).andThen
      fun answer state => (next answer).run world patience state

theorem alikeRuns_andThen {Other : Type} {verbose terse : Log.Level}
    {first second : GroupRun Result (Logged Outside)}
    {next : Result → Logged Outside → GroupRun Other (Logged Outside)}
    (runs : Logged.AlikeRuns verbose terse first second)
    (follows : ∀ result one another, Logged.Alike verbose terse one another →
      Logged.AlikeRuns verbose terse (next result one) (next result another)) :
    Logged.AlikeRuns verbose terse (first.andThen next) (second.andThen next) := by
  rw [GroupRun.andThen, GroupRun.andThen, runs.result_eq]
  split
  · exact ⟨rfl, runs.events_eq, runs.alike⟩
  next result _ =>
    have rest := follows result _ _ runs.alike
    refine ⟨rest.result_eq, ?_, rest.alike⟩
    simp only
    rw [runs.events_eq, rest.events_eq]

theorem alikeRuns_run (world : GroupWorld Outside)
    (opens : LoggingConfig → Outside → Except Bytes Unit) (patience : Nat) {verbose terse : Log.Level}
    (le : verbose.rank ≤ terse.rank) (client : Client Result) {first second : Logged Outside}
    (alike : Logged.Alike verbose terse first second) :
    Logged.AlikeRuns verbose terse (client.run (world.logged opens) patience first)
      (client.run (world.logged opens) patience second) := by
  induction client generalizing first second with
  | done result => exact ⟨rfl, rfl, alike⟩
  | make call next ih =>
      have confined := call.confined_program fun operation sandbox =>
        operation.confined_carryOut patience sandbox
      have keeps := confined.mono fun _ within => within.keepsLogging
      obtain ⟨result_eq, events_eq, after⟩ := alike.run world opens le keeps .group
      have marked_eq := congrArg (List.map fun event => (Actor.group, event)) events_eq
      refine alikeRuns_andThen ⟨result_eq, marked_eq, after⟩ ?_
      intro answer one another
      exact ih answer
  | callGroup group operation schedules next ih =>
      have confined : (operation.perform patience group).Confined (Action.Within fun _ => True) :=
        operation.confined_perform (fun member => member.confined_start (fun _ _ _ => trivial) patience)
          (fun _ => trivial) group
      have keeps := confined.mono fun _ within => within.keepsLogging
      refine alikeRuns_andThen (alike.runFrom world opens le keeps schedules 0) ?_
      intro answer one another
      exact ih answer

/-- Logging is observational.  After logging was set up at two levels, a client ends with the same result
in both runs, and the same happens in them, outside as well.  The lines of the run at the severer level
are those of the other that its level lets through. -/
theorem run_at_two_levels (client : Client Result) (world : GroupWorld Outside)
    (opens : LoggingConfig → Outside → Except Bytes Unit) (patience : Nat) (outside : Outside)
    (earlier : Log.Registry) (sinks : List Log.Sink) (verbose terse : Log.Level) :
    let runAt := fun level =>
      client.run (world.logged opens) patience ⟨outside, earlier.restart sinks level, []⟩
    (runAt terse).result? = (runAt verbose).result? ∧
      (runAt terse).events = (runAt verbose).events ∧
      (runAt terse).state.outside = (runAt verbose).state.outside ∧
      (verbose.rank ≤ terse.rank → (runAt terse).state.lines =
        (runAt verbose).state.lines.filter fun line => terse.enables line.record.level) := by
  intro runAt
  have compare : ∀ {verbose terse : Log.Level}, verbose.rank ≤ terse.rank →
      Logged.AlikeRuns verbose terse (runAt verbose) (runAt terse) := by
    intro verbose terse le
    refine alikeRuns_run world opens patience le client ⟨rfl, ?_, ?_, ?_, rfl⟩
    · exact earlier.isAt_restart sinks verbose
    · exact earlier.isAt_restart sinks terse
    · exact (earlier.reach_restart sinks terse).trans (earlier.reach_restart sinks verbose).symm
  rcases Nat.le_total verbose.rank terse.rank with le | ge
  · have runs := compare le
    exact ⟨runs.result_eq, runs.events_eq, runs.alike.outside_eq, fun _ => runs.alike.lines_eq⟩
  · have runs := compare ge
    exact ⟨runs.result_eq.symm, runs.events_eq.symm, runs.alike.outside_eq.symm,
      fun le => (compare le).alike.lines_eq⟩

/-- A client that starts a sandbox.  The service refuses it, which is an error and no more at the severer
of two levels. -/
theorem run_at_two_levels_rehearsed :
    let template : SandboxConfig := { cpus := .finite false 1 0 }
    let client : Client Lifecycle :=
      .make (.operate { config := template, routeKey := [] } .start) fun answer => .done answer.2.state
    let refused : Except Error Json := .error (.failure (utf8 "no capacity"))
    let world : GroupWorld Int := ⟨fun _ => (Rehearsal.timetable refused fun _ => refused).answer⟩
    let runAt := fun level => client.run (world.logged fun _ _ => .ok ()) 1
      ⟨0, ({} : Log.Registry).restart [.standardOutput] level, []⟩
    Log.Level.info.rank ≤ Log.Level.error.rank ∧
      (runAt .info).state.lines.map (fun line => line.record.level) = [.info, .error] ∧
      (runAt .error).result? = (runAt .info).result? ∧
      (runAt .error).events = (runAt .info).events ∧
      (runAt .error).state.outside = (runAt .info).state.outside ∧
      (runAt .error).state.lines = (runAt .info).state.lines.filter fun line =>
        Log.Level.error.enables line.record.level := by
  intro template client refused world runAt
  have le : Log.Level.info.rank ≤ Log.Level.error.rank := by decide
  obtain ⟨result_eq, events_eq, outside_eq, lines_eq⟩ :=
    run_at_two_levels client world (fun _ _ => .ok ()) 1 0 {} [.standardOutput] .info .error
  exact ⟨le, by decide +kernel, result_eq, events_eq, outside_eq, lines_eq le⟩

end Client

end SandboxClient
