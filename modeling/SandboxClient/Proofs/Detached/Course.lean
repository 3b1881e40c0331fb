import SandboxClient.Proofs.Detached.Probing

/-!
# The course of a detached run

A detached run opens a session unless it is given one, launches the command there, waits for the process
that the launch told, and reads the output.  This file says what each stage does and what it comes to,
given the answers to its calls.  A run ends early if the session or the launch fails, and if the launch
tells no process.  A wait that never ends is the only way for a run not to end.
-/

namespace SandboxClient

namespace Detached

open Sandbox

variable {sandbox : Sandbox} {logger command : Bytes} {options : RunOptions} {patience : Nat}

/-! ## Stages -/

/-- The visible events of a run: the time it reads first, the calls that create a session and launch the
command, the wait for the process, and the calls that read the output. -/
structure Stages where
  timestamp : Int
  creation : List Contact := []
  launch : List Contact := []
  wait : List Event := []
  reading : List Contact := []

def Stages.events (stages : Stages) : List Event :=
  ⟨.epochMillis, stages.timestamp⟩ :: (stages.creation ++ stages.launch).map Contact.event ++
    stages.wait ++ stages.reading.map Contact.event

theorem Stages.contacts_events (stages : Stages) :
    Event.contacts stages.events =
      stages.creation ++ stages.launch ++ Event.contacts stages.wait ++ stages.reading := by
  simp only [Stages.events, List.cons_append, Event.contacts_epochMillis, Event.contacts_append,
    Event.contacts_map_event]

theorem Stages.wait_sublist (stages : Stages) : stages.wait.Sublist stages.events := by
  rw [Stages.events]
  exact (List.sublist_append_right _ stages.wait).trans (List.sublist_append_left _ _)

/-- The session of a run that reads the given time. -/
def sessionOf (options : RunOptions) (timestamp : Int) : Bytes :=
  options.session?.getD (utf8 "bash-" ++ Text.integer timestamp)

/-- The output file of a run that reads the given time. -/
def fileOf (options : RunOptions) (timestamp : Int) : Bytes :=
  options.outputFile?.getD (utf8 "/tmp/tmp_" ++ Text.integer timestamp ++ utf8 ".out")

def placeOf (options : RunOptions) (timestamp : Int) : Place where
  session := sessionOf options timestamp
  file := fileOf options timestamp

@[simp]
theorem placeOf_session (options : RunOptions) (timestamp : Int) :
    (placeOf options timestamp).session = sessionOf options timestamp :=
  rfl

@[simp]
theorem placeOf_file (options : RunOptions) (timestamp : Int) :
    (placeOf options timestamp).file = fileOf options timestamp :=
  rfl

/-- The calls that open the session of a run, and what they come to. -/
inductive Opening (sandbox : Sandbox) (options : RunOptions) (timestamp : Int) :
    List Contact → Except Error Unit → Prop
  | given {session : Bytes} (present : options.session? = some session) :
      Opening sandbox options timestamp [] (.ok ())
  | created (missing : options.session? = none) (answer : Except Error Json) :
      Opening sandbox options timestamp
        [⟨sandbox.creationRequest { session := utf8 "bash-" ++ Text.integer timestamp }, answer⟩]
        (sandbox.creationOutcome answer)

def launchCall (sandbox : Sandbox) (command : Bytes) (place : Place) (answer : Except Error Json) :
    Contact where
  request := sandbox.sessionRequest (launchLine command place.file) place.session (some launchSeconds)
  answer := answer

/-- The process that the answer to a launch tells: the launch has to exit with zero and its output has
to name a process. -/
def launchedProcess? (sandbox : Sandbox) (answer : Except Error Json) : Option Nat :=
  match sandbox.sessionOutcome answer with
  | .ok observation =>
    if observation.exitCode? = some 0 then processId? observation.output else none
  | .error _ => none

/-- The calls that read the output of a run, and what they make of its result. -/
inductive Closing (sandbox : Sandbox) (options : RunOptions) (place : Place) (result : Observation) :
    List Contact → Except Error Observation → Prop
  | ignored (ignores : options.ignoreOutput = true) :
      Closing sandbox options place result []
        (.ok { result with
          output := utf8 "Command executed in nohup mode without reading its output. Output file: " ++
            place.file })
  | read (reads : options.ignoreOutput = false) (answer : Except Error Json) :
      Closing sandbox options place result
        [⟨sandbox.sessionRequest (readCommand options.byteLimit? place.file) place.session none, answer⟩]
        ((sandbox.sessionOutcome answer).map fun read => { result with output := read.output })

/-- The course of a run by its stages, and what it comes to, which is missing if the run does not end. -/
inductive Course (sandbox : Sandbox) (command : Bytes) (options : RunOptions) (patience : Nat) :
    Stages → Option (Except Error Observation) → Prop
  | unopened {timestamp : Int} {creation : List Contact} {error : Error}
      (opened : Opening sandbox options timestamp creation (.error error)) :
      Course sandbox command options patience { timestamp, creation } (some (.error error))
  | unlaunched {timestamp : Int} {creation : List Contact} {answer : Except Error Json} {error : Error}
      (opened : Opening sandbox options timestamp creation (.ok ()))
      (failed : sandbox.sessionOutcome answer = .error error) :
      Course sandbox command options patience
        { timestamp, creation, launch := [launchCall sandbox command (placeOf options timestamp) answer] }
        (some (.error error))
  | rejected {timestamp : Int} {creation : List Contact} {answer : Except Error Json}
      {launched : Observation} (opened : Opening sandbox options timestamp creation (.ok ()))
      (reported : sandbox.sessionOutcome answer = .ok launched)
      (nonzero : launched.exitCode? ≠ some 0) :
      Course sandbox command options patience
        { timestamp, creation, launch := [launchCall sandbox command (placeOf options timestamp) answer] }
        (some (.ok launched))
  | unnamed {timestamp : Int} {creation : List Contact} {answer : Except Error Json}
      {launched : Observation} (opened : Opening sandbox options timestamp creation (.ok ()))
      (reported : sandbox.sessionOutcome answer = .ok launched) (zero : launched.exitCode? = some 0)
      (unmarked : processId? launched.output = none) :
      Course sandbox command options patience
        { timestamp, creation, launch := [launchCall sandbox command (placeOf options timestamp) answer] }
        (some (.ok withoutProcess))
  | endless {timestamp : Int} {creation : List Contact} {answer : Except Error Json} {processId : Nat}
      {wait : List Event} (opened : Opening sandbox options timestamp creation (.ok ()))
      (told : launchedProcess? sandbox answer = some processId)
      (waited : Wait sandbox (taskOf options (placeOf options timestamp) processId) patience wait none) :
      Course sandbox command options patience
        { timestamp, creation, wait
          launch := [launchCall sandbox command (placeOf options timestamp) answer] }
        none
  | ended {timestamp : Int} {creation reading : List Contact} {answer : Except Error Json}
      {processId : Nat} {wait : List Event} {completed : Bool} {outcome : Except Error Observation}
      (opened : Opening sandbox options timestamp creation (.ok ()))
      (told : launchedProcess? sandbox answer = some processId)
      (waited : Wait sandbox (taskOf options (placeOf options timestamp) processId) patience wait
        (some completed))
      (closed : Closing sandbox options (placeOf options timestamp)
        (completion completed options.waitTimeout) reading outcome) :
      Course sandbox command options patience
        { timestamp, creation, wait, reading
          launch := [launchCall sandbox command (placeOf options timestamp) answer] }
        (some outcome)

/-! ## The program takes a course -/

variable {events : List Event}

/-- Choosing a place reads the wall clock first and opens the session. -/
theorem opening_of_choosePlace (live : sandbox.IsLive) {outcome? : Option (Except Error Place)}
    (admitted : (choosePlace sandbox options).outcome.Admits events outcome?) :
    ∃ timestamp rest creation opened, events = ⟨.epochMillis, timestamp⟩ :: rest ∧
      Event.visible rest = creation.map Contact.event ∧
      Opening sandbox options timestamp creation opened ∧
      outcome? = some (opened.map fun _ => placeOf options timestamp) := by
  rw [choosePlace, live.sandboxId, Attempt.outcome_lift_bind] at admitted
  obtain ⟨timestamp, rest, rfl, chosen⟩ := Program.admits_act_iff.mp admitted
  simp only [Program.pure_bind, Attempt.outcome_ok_bind] at chosen
  cases session_eq : options.session? with
  | some session =>
      rw [session_eq] at chosen
      obtain ⟨rfl, rfl⟩ := Program.admits_done_iff.mp chosen
      refine ⟨timestamp, [], [], .ok (), rfl, rfl, .given session_eq, ?_⟩
      simp [Except.map, placeOf, sessionOf, fileOf, session_eq]
  | none =>
      rw [session_eq] at chosen
      have place_eq : placeOf options timestamp =
          { session := utf8 "bash-" ++ Text.integer timestamp, file := fileOf options timestamp } := by
        simp [placeOf, sessionOf, session_eq]
      obtain ⟨inner?, created, rfl⟩ := Attempt.admits_of_map chosen
      obtain ⟨answer, outcome, visible_eq, rfl, decided⟩ := visible_createSession live created
      have opened : Opening sandbox options timestamp _ _ := .created session_eq answer
      refine ⟨timestamp, rest, _, _, rfl, by simpa [Contact.event] using visible_eq, opened, ?_⟩
      rw [decided, place_eq]
      cases outcome <;> rfl

theorem closing_of_collect (live : sandbox.IsLive) {place : Place} {result : Observation}
    {outcome? : Option (Except Error Observation)}
    (admitted : (collect sandbox options place result).outcome.Admits events outcome?) :
    ∃ reading outcome, Event.visible events = reading.map Contact.event ∧
      Closing sandbox options place result reading outcome ∧ outcome? = some outcome := by
  rw [collect] at admitted
  split at admitted
  next ignored =>
    obtain ⟨rfl, rfl⟩ := Program.admits_done_iff.mp admitted
    exact ⟨[], _, rfl, .ignored ignored, rfl⟩
  next kept =>
    obtain ⟨inner?, read, rfl⟩ := Attempt.admits_of_map admitted
    rw [outcome_runInSession live] at read
    simp only [Program.admits_act_iff, Program.admits_done_iff] at read
    obtain ⟨_, _, rfl, answer, _, rfl, rfl, rfl⟩ := read
    exact ⟨[⟨_, answer⟩], _, rfl, .read (by simpa using kept) answer, rfl⟩

/-- Going on from a launch completes the course of a run whose session is open. -/
theorem course_of_proceed (live : sandbox.IsLive) {timestamp : Int} {creation : List Contact}
    {answer : Except Error Json} {outcome? : Option (Except Error Observation)}
    (opened : Opening sandbox options timestamp creation (.ok ()))
    (admitted : (Attempt.resume (proceed patience sandbox logger options (placeOf options timestamp))
      (sandbox.sessionOutcome answer)).Admits events outcome?) :
    ∃ wait reading, Event.visible events = wait ++ reading.map Contact.event ∧
      Course sandbox command options patience
        { timestamp, creation, wait, reading
          launch := [launchCall sandbox command (placeOf options timestamp) answer] }
        outcome? := by
  cases reported : sandbox.sessionOutcome answer with
  | error error =>
      rw [reported] at admitted
      obtain ⟨rfl, rfl⟩ := Program.admits_done_iff.mp admitted
      exact ⟨[], [], rfl, .unlaunched opened reported⟩
  | ok launched =>
      rw [reported, Attempt.resume, proceed] at admitted
      split at admitted
      next failed =>
        obtain ⟨_, _, rfl, finished⟩ := Program.admits_act_iff.mp admitted
        obtain ⟨rfl, rfl⟩ := Program.admits_done_iff.mp finished
        have nonzero : launched.exitCode? ≠ some 0 := by simpa [Observation.succeeded] using failed
        exact ⟨[], [], rfl, .rejected opened reported nonzero⟩
      next succeeded =>
        have zero : launched.exitCode? = some 0 := by simpa [Observation.succeeded] using succeeded
        cases process_eq : processId? launched.output with
        | none =>
            rw [process_eq] at admitted
            obtain ⟨_, _, rfl, finished⟩ := Program.admits_act_iff.mp admitted
            obtain ⟨rfl, rfl⟩ := Program.admits_done_iff.mp finished
            exact ⟨[], [], rfl, .unnamed opened reported zero process_eq⟩
        | some processId =>
            have told : launchedProcess? sandbox answer = some processId := by
              simp [launchedProcess?, reported, zero, process_eq]
            rw [process_eq] at admitted
            obtain ⟨_, rest, rfl, supervised⟩ := Program.admits_act_iff.mp admitted
            rcases Attempt.admits_bind_iff.mp supervised with
              ⟨completed, first, second, rfl, waited, collected⟩ | ⟨error, failed, _⟩ | ⟨stopped, rfl⟩
            · obtain ⟨_, wait, ended⟩ := wait_of_awaitProcess live waited
              obtain ⟨_, rfl, completed_eq⟩ := Option.map_eq_some_iff.mp ended.symm
              cases completed_eq
              obtain ⟨reading, outcome, reading_eq, closed, rfl⟩ := closing_of_collect live collected
              refine ⟨Event.visible first, reading, ?_, .ended opened told wait closed⟩
              simp [reading_eq]
            · -- a wait reports no error
              obtain ⟨_, _, ended⟩ := wait_of_awaitProcess live failed
              obtain ⟨_, _, impossible⟩ := Option.map_eq_some_iff.mp ended.symm
              cases impossible
            · obtain ⟨_, wait, ended⟩ := wait_of_awaitProcess live stopped
              obtain rfl := Option.map_eq_none_iff.mp ended.symm
              exact ⟨Event.visible rest, [], by simp, .endless opened told wait⟩

/-- Whatever the answers, a detached run of a live handle takes a course. -/
theorem course_of_run (live : sandbox.IsLive) {outcome? : Option (Except Error Observation)}
    (admitted : (run patience sandbox logger command options).outcome.Admits events outcome?) :
    ∃ stages : Stages, events.head? = some ⟨.epochMillis, stages.timestamp⟩ ∧
      Event.visible events = stages.events ∧
      Course sandbox command options patience stages outcome? := by
  rw [run] at admitted
  rcases Attempt.admits_bind_iff.mp admitted with
    ⟨place, first, second, rfl, chosen, follows⟩ | ⟨error, failed, rfl⟩ | ⟨stopped, _⟩
  · obtain ⟨timestamp, rest, creation, opened?, rfl, creation_eq, opened, place_eq⟩ :=
      opening_of_choosePlace live chosen
    cases opened? with
    | error error => cases place_eq
    | ok _ =>
        cases place_eq
        rw [launch, Attempt.outcome_bind, outcome_runInSession live] at follows
        obtain ⟨_, _, rfl, later⟩ := Program.admits_act_iff.mp follows
        obtain ⟨answer, later, rfl, proceeds⟩ := Program.admits_act_iff.mp later
        obtain ⟨wait, reading, later_eq, course⟩ := course_of_proceed live opened proceeds
        refine ⟨_, rfl, ?_, course⟩
        simp [Stages.events, launchCall, Contact.event, placeOf, creation_eq, later_eq]
  · obtain ⟨timestamp, rest, creation, opened?, rfl, creation_eq, opened, place_eq⟩ :=
      opening_of_choosePlace live failed
    cases opened? with
    | ok _ => cases place_eq
    | error refusal =>
        cases place_eq
        refine ⟨_, rfl, ?_, .unopened opened⟩
        simp [Stages.events, creation_eq]
  · obtain ⟨_, _, _, _, _, _, _, impossible⟩ := opening_of_choosePlace live stopped
    cases impossible

end Detached

end SandboxClient
