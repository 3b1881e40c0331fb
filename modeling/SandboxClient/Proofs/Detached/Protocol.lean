import SandboxClient.Proofs.Detached.Course
import SandboxClient.Proofs.Program.Rehearsal
import SandboxClient.Sandbox.Run

/-!
# The protocol of a detached run

Which calls a detached run makes, in which order, and what each of them says.  A run without a session
of its own creates one, then the command is launched, then the process is probed until a probe tells
that it is gone, and at last the output file is read.  Each stage is reached only if the stage before
it went well, and all stages agree on the session, the file and the process.
-/

namespace SandboxClient

namespace Detached

open Sandbox

variable {sandbox : Sandbox} {logger command : Bytes} {options : RunOptions} {patience : Nat}
  {events : List Event}

/-- The process that the calls of the launch stage tell. -/
def processOf? (sandbox : Sandbox) (launch : List Contact) : Option Nat :=
  launch.head?.bind fun contact => launchedProcess? sandbox contact.answer

/-- The shell line that reads an output file, whole or up to a limit that is not zero. -/
def readLine (byteLimit? : Option Nat) (file : Bytes) : Bytes :=
  if 0 < byteLimit?.getD 0 then
    utf8 "head -c " ++ Text.decimal (byteLimit?.getD 0) ++ utf8 " " ++ file
  else utf8 "cat " ++ file

theorem readCommand_eq_readLine (byteLimit? : Option Nat) (file : Bytes) :
    readCommand byteLimit? file = readLine byteLimit? file := by
  cases byteLimit? with
  | none => rfl
  | some limit => cases limit <;> rfl

/-- What the calls of the four stages of a run are.  A run that has not ended is one whose patience ran
out while it was probing. -/
structure Protocol (sandbox : Sandbox) (command : Bytes) (options : RunOptions) (patience : Nat)
    (timestamp : Int) (ended : Bool) (creation launch probes reading : List Contact) : Prop where
  /-- A session is created exactly if the options give none. -/
  creation_requests : creation.map Contact.request =
    if options.session?.isNone then
      [sandbox.creationRequest { session := utf8 "bash-" ++ Text.integer timestamp }]
    else []
  /-- The command is launched once, unless the session could not be created. -/
  launch_requests : launch.map Contact.request =
    if creation.all fun contact => sandbox.isCreated contact.answer then
      [sandbox.sessionRequest (launchLine command (fileOf options timestamp))
        (sessionOf options timestamp) (some launchSeconds)]
    else []
  /-- Only the process that the launch told is probed. -/
  probe_requests : ∀ probe ∈ probes, ∃ processId seconds,
    processOf? sandbox launch = some processId ∧
      probe.request = sandbox.sessionRequest (utf8 "kill -0 " ++ Text.decimal processId)
        (sessionOf options timestamp) (some seconds)
  /-- No probe follows one that tells that the process is gone. -/
  probes_remain : ∀ probe ∈ probes.dropLast, tellsGone sandbox probe.answer = false
  /-- A run that has not ended goes on probing. -/
  probes_of_not_ended : ended = false → (processOf? sandbox launch).isSome ∧
    probes.length = patience ∧ ∀ probe ∈ probes, tellsGone sandbox probe.answer = false
  /-- The output file is read once, after a launch that told a process, unless the output is ignored. -/
  reading_requests : reading.map Contact.request =
    if ended ∧ (processOf? sandbox launch).isSome ∧ options.ignoreOutput = false then
      [sandbox.sessionRequest (readLine options.byteLimit? (fileOf options timestamp))
        (sessionOf options timestamp) none]
    else []

/-! ## Every course keeps the protocol -/

variable {timestamp : Int} {creation : List Contact}

theorem Opening.creation_requests {opened : Except Error Unit}
    (opening : Opening sandbox options timestamp creation opened) :
    creation.map Contact.request =
      if options.session?.isNone then
        [sandbox.creationRequest { session := utf8 "bash-" ++ Text.integer timestamp }]
      else [] := by
  cases opening with
  | given present => simp [present]
  | created missing answer => simp [missing]

theorem Opening.all_isCreated {opened : Except Error Unit}
    (opening : Opening sandbox options timestamp creation opened) :
    (creation.all fun contact => sandbox.isCreated contact.answer) = opened.toBool := by
  cases opening with
  | given present => rfl
  | created missing answer => simp [isCreated_eq]

theorem Closing.reading_requests {place : Place} {result : Observation} {reading : List Contact}
    {outcome : Except Error Observation}
    (closing : Closing sandbox options place result reading outcome) :
    reading.map Contact.request =
      if options.ignoreOutput = false then
        [sandbox.sessionRequest (readLine options.byteLimit? place.file) place.session none]
      else [] := by
  cases closing with
  | ignored ignores => simp [ignores]
  | read reads answer => simp [reads, readCommand_eq_readLine]

/-- A run that has launched its command makes no other call unless a process was told. -/
theorem protocol_of_no_process {answer : Except Error Json}
    (opened : Opening sandbox options timestamp creation (.ok ()))
    (untold : launchedProcess? sandbox answer = none) :
    Protocol sandbox command options patience timestamp true creation
      [launchCall sandbox command (placeOf options timestamp) answer] [] [] where
  creation_requests := opened.creation_requests
  launch_requests := by
    rw [opened.all_isCreated]
    rfl
  probe_requests := by simp
  probes_remain := by simp
  probes_of_not_ended := by simp
  reading_requests := by simp [processOf?, launchCall, untold]

/-- A run that waits for a process probes it, and reads the output when the wait has ended. -/
theorem protocol_of_wait {answer : Except Error Json} {processId : Nat} {wait : List Event}
    {completed? : Option Bool} {reading : List Contact}
    (opened : Opening sandbox options timestamp creation (.ok ()))
    (told : launchedProcess? sandbox answer = some processId)
    (waited : Wait sandbox (taskOf options (placeOf options timestamp) processId) patience wait
      completed?)
    (reading_requests : reading.map Contact.request =
      if completed?.isSome ∧ options.ignoreOutput = false then
        [sandbox.sessionRequest (readLine options.byteLimit? (fileOf options timestamp))
          (sessionOf options timestamp) none]
      else []) :
    Protocol sandbox command options patience timestamp completed?.isSome creation
      [launchCall sandbox command (placeOf options timestamp) answer] (Event.contacts wait)
      reading where
  creation_requests := opened.creation_requests
  launch_requests := by
    rw [opened.all_isCreated]
    rfl
  probe_requests := by
    intro probe member
    obtain ⟨⟨seconds, request_eq⟩, _⟩ := waited.probes probe member
    exact ⟨processId, seconds, told, request_eq⟩
  probes_remain := waited.remain_of_dropLast
  probes_of_not_ended := by
    intro unended
    obtain rfl : completed? = none := by simpa using unended
    obtain ⟨length_eq, unseen⟩ := waited.of_endless
    exact ⟨by simp [processOf?, launchCall, told], length_eq, unseen⟩
  reading_requests := by simpa [processOf?, launchCall, told] using reading_requests

theorem Course.protocol {stages : Stages} {outcome? : Option (Except Error Observation)}
    (course : Course sandbox command options patience stages outcome?) :
    Protocol sandbox command options patience stages.timestamp outcome?.isSome stages.creation
      stages.launch (Event.contacts stages.wait) stages.reading := by
  cases course with
  | unopened opened =>
      refine ⟨opened.creation_requests, ?_, by simp, by simp, by simp, by simp [processOf?]⟩
      rw [opened.all_isCreated]
      rfl
  | unlaunched opened failed =>
      exact protocol_of_no_process opened (by simp [launchedProcess?, failed])
  | rejected opened reported nonzero =>
      exact protocol_of_no_process opened (by simp [launchedProcess?, reported, nonzero])
  | unnamed opened reported zero unmarked =>
      exact protocol_of_no_process opened (by simp [launchedProcess?, reported, unmarked])
  | endless opened told waited => exact protocol_of_wait opened told waited (by simp)
  | ended opened told waited closed =>
      exact protocol_of_wait opened told waited (by simpa using closed.reading_requests)

/-- The calls of a detached run keep the protocol, with the time that the run reads first. -/
theorem protocol_of_run (live : sandbox.IsLive) {outcome? : Option (Except Error Observation)}
    (admitted : (run patience sandbox logger command options).outcome.Admits events outcome?) :
    ∃ timestamp creation launch probes reading,
      events.head? = some ⟨.epochMillis, timestamp⟩ ∧
      Event.contacts events = creation ++ launch ++ probes ++ reading ∧
      Protocol sandbox command options patience timestamp outcome?.isSome creation launch probes
        reading := by
  obtain ⟨stages, head_eq, visible_eq, course⟩ := course_of_run live admitted
  refine ⟨_, _, _, _, _, head_eq, ?_, course.protocol⟩
  rw [← Event.contacts_visible, visible_eq, stages.contacts_events]

end Detached

namespace Sandbox

variable {sandbox : Sandbox} {command : Bytes} {options : RunOptions} {State : Type}

end Sandbox

end SandboxClient
