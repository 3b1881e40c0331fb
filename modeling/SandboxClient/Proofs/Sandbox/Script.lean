import SandboxClient.Proofs.Envelope
import SandboxClient.Proofs.Program.Rehearsal
import SandboxClient.Proofs.Sandbox.Ending
import SandboxClient.Proofs.Sandbox.Verdict
import SandboxClient.Sandbox.Script

/-!
# Running a script

A script is written to the sandbox, run detached and removed.  A handle with an identity always has
something to report of it: what the run observed, that the service rejected the file, or which error came
in between.  The report is settled before the script is removed, so removing it costs one more call at the
end and changes nothing else.
-/

namespace SandboxClient

namespace Sandbox

variable {sandbox : Sandbox} {path content : Bytes} {events : List Event}

/-! ## Writing a file -/

/-- What becomes of a file that is written.  A response that reports no success is put into a log record,
which fails unless its texts are UTF-8. -/
inductive Stored (sandbox : Sandbox) (path content : Bytes) :
    List Event → Except Error WriteFileResponse → Prop
  | idle (idle : ¬ sandbox.IsLive) :
      Stored sandbox path content [] (.error (.notStarted (utf8 "write file")))
  | lost (live : sandbox.IsLive) (error : Error) :
      Stored sandbox path content [⟨.request (sandbox.writeRequest path content), .error error⟩]
        (.error error)
  | taken {response : Json} (live : sandbox.IsLive) (success : Envelope.ReportsSuccess response) :
      Stored sandbox path content [⟨.request (sandbox.writeRequest path content), .ok response⟩]
        (.ok { success := true, message := utf8 "Successfully wrote content to file " ++ path })
  | rejected {response : Json} (live : sandbox.IsLive)
      (unsuccessful : ¬ Envelope.ReportsSuccess response) (valid : response.IsUtf8) :
      Stored sandbox path content [⟨.request (sandbox.writeRequest path content), .ok response⟩]
        (.ok { success := false, message := utf8 "Failed to write file " ++ path })
  | unwritten {response : Json} {error : Error} (live : sandbox.IsLive)
      (unsuccessful : ¬ Envelope.ReportsSuccess response) (invalid : ¬ response.IsUtf8) :
      Stored sandbox path content [⟨.request (sandbox.writeRequest path content), .ok response⟩]
        (.error error)

theorem stored_of_putFile {outcome? : Option (Except Error WriteFileResponse)}
    (admitted : (sandbox.putFile path content).outcome.Admits events outcome?) :
    ∃ outcome, outcome? = some outcome ∧
      sandbox.Stored path content (Event.visible events) outcome := by
  by_cases live : sandbox.IsLive
  · rw [putFile, live.requireAlive, Attempt.outcome_ok_bind, Attempt.outcome_bind] at admitted
    obtain ⟨answer, rest, rfl, follows⟩ := Program.admits_act_iff.mp admitted
    cases answer with
    | error error =>
        obtain ⟨rfl, rfl⟩ := Program.admits_done_iff.mp follows
        exact ⟨_, rfl, .lost live error⟩
    | ok response =>
        simp only [Program.pure_bind, Attempt.resume] at follows
        split at follows
        next success =>
          obtain ⟨rfl, rfl⟩ := Program.admits_done_iff.mp follows
          exact ⟨_, rfl, .taken live (Envelope.isSuccess_iff.mp success)⟩
        next unsuccessful =>
          rw [Envelope.isSuccess_iff] at unsuccessful
          cases written : response.document with
          | error error =>
              rw [written, Attempt.outcome_error_bind] at follows
              obtain ⟨rfl, rfl⟩ := Program.admits_done_iff.mp follows
              refine ⟨_, rfl, .unwritten live unsuccessful fun valid => ?_⟩
              obtain ⟨text, document, _⟩ := valid.document
              cases written.symm.trans document
          | ok text =>
              rw [written, Attempt.outcome_ok_bind, Attempt.outcome_lift_bind] at follows
              obtain ⟨unseen, rfl⟩ := Program.visible_of_log follows
              rw [Event.visible_request, unseen]
              exact ⟨_, rfl, .rejected live unsuccessful (Json.isUtf8_of_document written)⟩
  · rw [putFile, requireAlive_of_not_isLive live, Attempt.outcome_error_bind] at admitted
    obtain ⟨rfl, rfl⟩ := Program.admits_done_iff.mp admitted
    exact ⟨_, rfl, .idle live⟩

end Sandbox

namespace Script

variable {script : Script} {sandbox : Sandbox} {patience : Nat} {name path : Bytes}
  {events : List Event}

/-! ## What is reported of a script -/

/-- The name of a script: its own or, if it has none, one after the time. -/
inductive Named (script : Script) : List Event → (name : Bytes) → Prop
  | given {name : Bytes} (given : script.name? = some name) : Named script [] name
  | fresh (unnamed : script.name? = none) (millis : Int) :
      Named script [⟨.epochMillis, millis⟩] (utf8 "script_" ++ Text.integer millis ++ utf8 ".sh")

/-- What comes of writing a script to a path and running it.  It is only run if the service took the
file. -/
inductive Submitted (patience : Nat) (sandbox : Sandbox) (script : Script) (path : Bytes) :
    List Event → Option (Except Error Observation) → Prop
  | failed {writing : List Event} {error : Error}
      (stored : sandbox.Stored path script.content writing (.error error)) :
      Submitted patience sandbox script path writing (some (.error error))
  | rejected {writing : List Event} {written : WriteFileResponse} {observation : Observation}
      (stored : sandbox.Stored path script.content writing (.ok written))
      (refused : written.success = false)
      (output_eq : observation.output = utf8 "Failed to upload script: " ++ written.message)
      (exitCode_eq : observation.exitCode? = some 1)
      (failureReason_eq : observation.failureReason = utf8 "Script upload failed") :
      Submitted patience sandbox script path writing (some (.ok observation))
  | launched {writing own : List Event} {written : WriteFileResponse}
      {outcome? : Option (Except Error Observation)}
      (stored : sandbox.Stored path script.content writing (.ok written))
      (accepted : written.success = true)
      (ran : (sandbox.run patience (utf8 "bash " ++ path)
        { mode := .detached, waitTimeout := script.waitTimeout,
          waitInterval := script.waitInterval }).outcome.Admits own outcome?) :
      Submitted patience sandbox script path (writing ++ Event.visible own) outcome?

/-- What is reported of an error. -/
structure Foiled (error : Error) (observation : Observation) : Prop where
  exitCode_eq : observation.exitCode? = some 1
  output_eq : observation.output = utf8 "Script execution failed: " ++ error.message
  failureReason_eq : observation.failureReason = observation.output

/-- What is reported of an outcome. -/
inductive Reported : (outcome? : Option (Except Error Observation)) → Option Observation → Prop
  | endless : Reported none none
  | observed (observation : Observation) : Reported (some (.ok observation)) (some observation)
  | foiled {error : Error} {observation : Observation} (foiled : Foiled error observation) :
      Reported (some (.error error)) (some observation)

/-- What the removal of a script does once there is a report: a handle that is alive makes one call. -/
inductive Cleaned (sandbox : Sandbox) (path : Bytes) : (report? : Option Observation) → List Event → Prop
  | endless : Cleaned sandbox path none []
  | idle {report : Observation} (idle : sandbox.state ≠ .alive) : Cleaned sandbox path (some report) []
  | removed {report : Observation} {answer : Except Error Json} (alive : sandbox.state = .alive) :
      Cleaned sandbox path (some report)
        [⟨.request (sandbox.executeRequest (.ofArguments [utf8 "rm", utf8 "-f", path] 30)), answer⟩]

theorem named_of_choosePath {path? : Option Bytes}
    (admitted : script.choosePath.Admits events path?) :
    ∃ name, Named script (Event.visible events) name ∧ path? = some (utf8 "/tmp/" ++ name) := by
  rw [choosePath] at admitted
  split at admitted
  next name given =>
    obtain ⟨rfl, rfl⟩ := Program.admits_done_iff.mp admitted
    exact ⟨name, .given given, rfl⟩
  next unnamed =>
    obtain ⟨millis, _, rfl, finished⟩ := Program.admits_act_iff.mp admitted
    obtain ⟨rfl, rfl⟩ := Program.admits_done_iff.mp finished
    refine ⟨_, .fresh unnamed millis, ?_⟩
    have prefixed : utf8 "/tmp/script_" = utf8 "/tmp/" ++ utf8 "script_" := by decide
    rw [prefixed]
    simp

theorem submitted_of_submit {outcome? : Option (Except Error Observation)}
    (admitted : (script.submit patience sandbox path).outcome.Admits events outcome?) :
    Submitted patience sandbox script path (Event.visible events) outcome? := by
  rw [submit, Attempt.outcome_lift_bind] at admitted
  obtain ⟨_, rest, rfl, submits⟩ := Program.admits_act_iff.mp admitted
  rw [Event.visible_log]
  rcases Attempt.admits_bind_iff.mp submits with
    ⟨written, first, second, rfl, wrote, follows⟩ | ⟨error, wrote, rfl⟩ | ⟨stops, _⟩
  · obtain ⟨_, same, stored⟩ := Sandbox.stored_of_putFile wrote
    cases same
    rw [Event.visible_append]
    split at follows
    next accepted =>
      rw [Attempt.outcome_lift_bind] at follows
      obtain ⟨_, own, rfl, ran⟩ := Program.admits_act_iff.mp follows
      rw [Event.visible_log]
      exact .launched stored accepted ran
    next refused =>
      rw [Attempt.outcome_lift_bind] at follows
      obtain ⟨unseen, rfl⟩ := Program.visible_of_log follows
      rw [unseen, List.append_nil]
      exact .rejected stored (Bool.eq_false_iff.mpr refused) rfl rfl rfl
  · obtain ⟨_, same, stored⟩ := Sandbox.stored_of_putFile wrote
    cases same
    exact .failed stored
  · obtain ⟨_, impossible, _⟩ := Sandbox.stored_of_putFile stops
    cases impossible

/-! ## Reporting before removing -/

/-- The path of a script and what is reported of it. -/
def told (patience : Nat) (sandbox : Sandbox) (script : Script) : Program (Bytes × Observation) := do
  let path ← script.choosePath
  match ← (script.submit patience sandbox path).outcome with
  | .ok observation => return (path, observation)
  | .error error =>
    .log logger .error (sandbox.tagged (failed error).output)
    return (path, failed error)

theorem submitted_of_told {told? : Option (Bytes × Observation)}
    (admitted : (script.told patience sandbox).Admits events told?) :
    ∃ naming name own outcome? report?, Event.visible events = naming ++ own ∧
      Named script naming name ∧
      Submitted patience sandbox script (utf8 "/tmp/" ++ name) own outcome? ∧
      Reported outcome? report? ∧ told? = report?.map (utf8 "/tmp/" ++ name, ·) := by
  rcases Program.admits_bind_iff.mp admitted with ⟨path, first, second, rfl, chose, follows⟩ | ⟨stops, _⟩
  · obtain ⟨name, named, same⟩ := named_of_choosePath chose
    cases same
    rcases Program.admits_bind_iff.mp follows with
      ⟨outcome, third, fourth, rfl, submitted, recovers⟩ | ⟨stops, rfl⟩
    · have submitted := submitted_of_submit submitted
      cases outcome with
      | ok observation =>
          obtain ⟨rfl, rfl⟩ := Program.admits_done_iff.mp recovers
          exact ⟨_, name, _, _, some observation, by simp, named, submitted, .observed observation, rfl⟩
      | error error =>
          obtain ⟨unseen, rfl⟩ := Program.visible_of_log recovers
          have foiled : Foiled error (failed error) := ⟨rfl, rfl, rfl⟩
          exact ⟨_, name, _, _, some (failed error), by simp [unseen], named, submitted, .foiled foiled, rfl⟩
    · exact ⟨_, name, _, _, none, by simp, named, submitted_of_submit stops, .endless, rfl⟩
  · obtain ⟨_, _, impossible⟩ := named_of_choosePath stops
    cases impossible

theorem cleaned_of_execute (identified : sandbox.id ≠ [])
    {outcome? : Option (Except Error CommandResponse)}
    (admitted : (sandbox.execute (.ofArguments [utf8 "rm", utf8 "-f", path] 30)).outcome.Admits events
      outcome?) (report : Observation) :
    outcome?.isSome = true ∧ Cleaned sandbox path (some report) (Event.visible events) := by
  by_cases alive : sandbox.state = .alive
  · obtain ⟨answer, only, rfl⟩ := Sandbox.visible_execute ⟨alive, identified⟩ admitted
    rw [only]
    exact ⟨rfl, .removed alive⟩
  · rw [Sandbox.outcome_execute_of_not_isLive fun live => alive live.1] at admitted
    obtain ⟨rfl, rfl⟩ := Program.admits_done_iff.mp admitted
    exact ⟨rfl, .idle alive⟩

theorem cleaned_of_remove (identified : sandbox.id ≠ []) {ended? : Option Unit}
    (admitted : (remove sandbox path).Admits events ended?) (report : Observation) :
    ended? = some () ∧ Cleaned sandbox path (some report) (Event.visible events) := by
  obtain ⟨_, rest, rfl, removes⟩ := Program.admits_act_iff.mp admitted
  rw [Event.visible_log]
  rw [Program.pure_bind] at removes
  rcases Program.admits_bind_iff.mp removes with
    ⟨outcome, first, second, rfl, executed, remarks⟩ | ⟨stops, _⟩
  · obtain ⟨_, cleaned⟩ := cleaned_of_execute identified executed report
    have ended : Event.visible second = [] ∧ ended? = some () := by
      cases outcome with
      | ok response =>
          obtain ⟨rfl, rfl⟩ := Program.admits_done_iff.mp remarks
          exact ⟨rfl, rfl⟩
      | error error => exact Program.visible_of_log remarks
    rw [Event.visible_append, ended.1, List.append_nil]
    exact ⟨ended.2, cleaned⟩
  · cases (cleaned_of_execute identified stops report).1

/-- Only the removal depends on whether a script is to be removed. -/
theorem outcome_execute (identified : sandbox.id ≠ []) (script : Script) (cleanup : Bool) :
    ({ script with cleanup }.execute patience sandbox).outcome =
      (script.told patience sandbox).bind fun (path, observation) =>
        if cleanup then (remove sandbox path).bind fun _ => .done (.ok observation)
        else .done (.ok observation) := by
  have known : sandbox.sandboxId = .ok sandbox.id := by
    simp [Sandbox.sandboxId, Sandbox.requireId, identified]
  rw [execute, known, Attempt.outcome_ok_bind, Attempt.outcome_lift]
  show Program.bind (Program.bind _ _) _ = Program.bind (Program.bind _ _) _
  rw [Program.bind_assoc, Program.bind_assoc]
  congr 1
  funext path
  show Program.bind (Program.bind _ _) _ = Program.bind (Program.bind _ _) _
  rw [Program.bind_assoc, Program.bind_assoc]
  congr 1
  funext outcome
  cases outcome with
  | ok observation =>
      cases cleanup with
      | false => rfl
      | true => exact Program.bind_assoc (remove sandbox path) _ _
  | error error =>
      cases cleanup with
      | false => rfl
      | true =>
          -- the record of the error comes first
          refine congrArg (Program.act _) (funext fun _ => ?_)
          exact Program.bind_assoc (remove sandbox path) _ _

/-- A run that removes the script goes on where a run that keeps it ends. -/
theorem run_execute (identified : sandbox.id ≠ []) {State : Type} {world : World State} {state : State}
    {report? : Option Observation}
    (told_eq : ((script.told patience sandbox).run world state).result? = report?.map (path, ·)) :
    let told := (script.told patience sandbox).run world state
    let run (cleanup : Bool) :=
      ({ script with cleanup }.execute patience sandbox).outcome.run world state
    (∀ cleanup, (run cleanup).result? = report?.map .ok) ∧ (run false).events = told.events ∧
      ∃ cleaning, (run true).events = told.events ++ cleaning ∧
        Cleaned sandbox path report? (Event.visible cleaning) := by
  intro told run
  cases report? with
  | none =>
      have stalled (cleanup : Bool) : run cleanup = ⟨none, told.events, told.state⟩ := by
        simp only [run, outcome_execute identified, Program.run_bind_of_none told_eq, told]
      refine ⟨fun cleanup => ?_, by rw [stalled], [], by rw [stalled, List.append_nil], .endless⟩
      rw [stalled]
      rfl
  | some report =>
      let removal := (remove sandbox path).run world told.state
      obtain ⟨removed, cleaned⟩ := cleaned_of_remove identified
        (Program.admits_run world (remove sandbox path) told.state) report
      have kept : run false = ⟨some (.ok report), told.events, told.state⟩ := by
        simp [run, outcome_execute identified, Program.run_bind_of_some told_eq, told, Program.run]
      have cleared : run true =
          ⟨some (.ok report), told.events ++ removal.events, removal.state⟩ := by
        simp [run, outcome_execute identified, Program.run_bind_of_some told_eq, told,
          Program.run_bind_of_some removed, removal, Program.run]
      rw [kept, cleared]
      refine ⟨?_, rfl, removal.events, rfl, cleaned⟩
      intro cleanup
      cases cleanup with
      | false => rw [kept]; rfl
      | true => rw [cleared]; rfl

theorem Reported.outcome_eq_none {outcome? : Option (Except Error Observation)}
    (reported : Reported outcome? none) : outcome? = none := by
  cases reported
  rfl

/-- While time passes, a script comes to an end. -/
theorem Submitted.not_endless (submitted : Submitted patience sandbox script path events none)
    (passes : Event.TimePasses events) (enough : script.waitTimeout.toNat < patience) : False := by
  generalize outcome_eq : none = outcome? at submitted
  cases submitted with
  | @launched writing own written outcome? stored accepted ran =>
      subst outcome_eq
      have passes : Event.TimePasses own :=
        .of_visible (passes.sublist (List.sublist_append_right _ _))
      exact Sandbox.run_endsInTime enough own passes ran
  | _ => cases outcome_eq

/-- Whatever the service and the clock do, a handle with an identity reports of a script instead of failing,
and it does so as soon as time passes and its patience lasts.  Removing the script comes after that: the
report and all the calls before are those of a script that is kept. -/
theorem execute_reports_before_removing (identified : sandbox.id ≠ []) (script : Script)
    (patience : Nat) {State : Type} (world : World State) (state : State) :
    let run (cleanup : Bool) :=
      ({ script with cleanup }.execute patience sandbox).outcome.run world state
    (∃ naming name own outcome? report?,
      Event.visible (run false).events = naming ++ own ∧ Named script naming name ∧
      Submitted patience sandbox script (utf8 "/tmp/" ++ name) own outcome? ∧
      Reported outcome? report? ∧ (∀ cleanup, (run cleanup).result? = report?.map .ok) ∧
      ∃ cleaning, (run true).events = (run false).events ++ cleaning ∧
        Cleaned sandbox (utf8 "/tmp/" ++ name) report? (Event.visible cleaning)) ∧
    (Event.TimePasses (run false).events → script.waitTimeout.toNat < patience →
      ∃ report, ∀ cleanup, (run cleanup).result? = some (.ok report)) := by
  intro run
  obtain ⟨naming, name, own, outcome?, report?, visible_eq, named, submitted, reported, told_eq⟩ :=
    submitted_of_told (Program.admits_run world (script.told patience sandbox) state)
  obtain ⟨result_eq, events_eq, cleaning, cleared, cleaned⟩ := run_execute identified told_eq
  refine ⟨⟨naming, name, own, outcome?, report?, ?_, named, submitted, reported, result_eq, cleaning, ?_,
    cleaned⟩, fun passes enough => ?_⟩
  · rw [events_eq, visible_eq]
  · rw [cleared, events_eq]
  · cases report? with
    | some report => exact ⟨report, result_eq⟩
    | none =>
        obtain rfl := reported.outcome_eq_none
        have passes : Event.TimePasses own := by
          rw [events_eq] at passes
          exact (visible_eq ▸ passes.visible).sublist (List.sublist_append_right _ _)
        exact (submitted.not_endless passes enough).elim

/-- The output of a script is read, and then the connection is lost when the script is to be removed. -/
theorem execute_reports_before_removing_rehearsed :
    let sandbox : Sandbox := { config := {}, routeKey := [], state := .alive, id := utf8 "sb-1" }
    let script : Script := { content := utf8 "make", name? := some (utf8 "setup.sh") }
    let replies := [
      Rehearsal.success [], Rehearsal.success [],
      Rehearsal.success [(utf8 "exit_code", .integer 0),
        (utf8 "output", .string (utf8 "__ROCK_PID_START__42__ROCK_PID_END__"))],
      Rehearsal.success [(utf8 "exit_code", .integer 1)],
      Rehearsal.success [(utf8 "exit_code", .integer 0), (utf8 "output", .string (utf8 "made"))],
      .error (.failure (utf8 "connection reset"))]
    let run (cleanup : Bool) :=
      ({ script with cleanup }.execute 301 sandbox).outcome.run Rehearsal.world ⟨replies, 0⟩
    let report : Observation := { output := utf8 "made", exitCode? := some 0 }
    sandbox.id ≠ [] ∧ (Event.contacts (run true).events).length = 6 ∧
      (∀ cleanup, (run cleanup).result? = some (.ok report)) ∧
      ∃ cleaning, (run true).events = (run false).events ++ cleaning ∧
        Cleaned sandbox (utf8 "/tmp/setup.sh") (some report) (Event.visible cleaning) := by
  intro sandbox script replies run report
  have identified : sandbox.id ≠ [] := by decide
  have read : (run true).result? = some (.ok report) := by rfl
  obtain ⟨_, name, _, _, report?, _, named, _, _, result_eq, cleaning, cleared, cleaned⟩ :=
    (execute_reports_before_removing identified script 301 Rehearsal.world ⟨replies, 0⟩).1
  cases named with
  | fresh unnamed => cases unnamed
  | given given =>
      cases given
      obtain ⟨_, rfl, same⟩ := Option.map_eq_some_iff.mp ((result_eq true).symm.trans read)
      cases same
      exact ⟨identified, by rfl, result_eq, cleaning, cleared, cleaned⟩

end Script

end SandboxClient
