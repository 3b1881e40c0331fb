import SandboxClient.Proofs.Retry.Attempts
import SandboxClient.Proofs.Sandbox.Errand
import SandboxClient.Sandbox.Account
import SandboxClient.Sandbox.Ownership
import SandboxClient.Sandbox.Script
import SandboxClient.Sandbox.Speedup

/-!
# Operations made of errands

Running a command, in a session or detached, and what is built on it: scripts, owners and modes of
files, accounts and package sources.  None of them calls the service otherwise than by running an errand
for the live sandbox of its handle.
-/

namespace SandboxClient

/-- The options of a run give commands in its session no bounds but some. -/
def RunOptions.GivesOnly (given : Option Float → Prop) (options : RunOptions) : Prop :=
  match options.mode with
  | .normal => given (some (Float.ofInt options.timeout))
  | .detached =>
    given (some Detached.launchSeconds) ∧ given none ∧
      ∀ (place : Detached.Place) (processId : Nat) (elapsed : Int),
        let task := Detached.taskOf options place processId
        elapsed < task.budget → given (some (Clock.millisToSeconds (task.probeTimeout elapsed)))

theorem RunOptions.givesOnly_any (options : RunOptions) : options.GivesOnly fun _ => True := by
  rw [GivesOnly]
  cases options.mode with
  | normal => trivial
  | detached => exact ⟨trivial, trivial, fun _ _ _ _ => trivial⟩

/-! ## Detached runs -/

namespace Detached

variable {sandbox : Sandbox} {given : Option Float → Prop} {logger : Bytes} {options : RunOptions}
  {patience : Nat}

theorem confined_pollProcess {task : Task} (probes : ∀ elapsed, elapsed < task.budget →
      given (some (Clock.millisToSeconds (task.probeTimeout elapsed))))
    (start : Int) (patience : Nat) :
    (pollProcess sandbox logger task start patience).Confined (sandbox.Does given) := by
  induction patience with
  | zero => trivial
  | succ patience ih =>
      refine ⟨trivial, fun reading => ?_⟩
      simp only [Program.pure_bind]
      split
      · exact ⟨trivial, fun _ => trivial⟩
      next within =>
        have bound := probes _ (Int.not_le.mp within)
        refine (sandbox.confined_runInSession _ _ bound).bind fun outcome => ?_
        cases outcome with
        | error error => exact ⟨trivial, fun _ => trivial⟩
        | ok observation =>
            simp only
            split
            · exact ⟨trivial, fun _ => ⟨trivial, fun _ => trivial⟩⟩
            · exact ⟨trivial, fun _ => ih⟩

theorem confined_awaitProcess {task : Task} (probes : ∀ elapsed, elapsed < task.budget →
      given (some (Clock.millisToSeconds (task.probeTimeout elapsed)))) :
    (awaitProcess patience sandbox logger task).outcome.Confined (sandbox.Does given) := by
  refine Attempt.confined_bind trivial fun _ => ?_
  refine Attempt.confined_bind ⟨trivial, fun _ => trivial⟩ fun start => ?_
  exact Attempt.confined_lift (confined_pollProcess probes start patience)

theorem confined_choosePlace :
    (choosePlace sandbox options).outcome.Confined (sandbox.Does given) := by
  refine Attempt.confined_bind ⟨trivial, fun _ => trivial⟩ fun timestamp => ?_
  refine Attempt.confined_bind trivial fun _ => ?_
  split
  · trivial
  · exact Attempt.confined_bind (sandbox.confined_createSession _) fun _ => trivial

theorem confined_collect (reads : given none) (place : Place) (result : Observation) :
    (collect sandbox options place result).outcome.Confined (sandbox.Does given) := by
  rw [collect]
  split
  · trivial
  · exact Attempt.confined_bind (sandbox.confined_runInSession _ _ reads) fun _ => trivial

theorem confined_proceed (reads : given none) (place : Place) (launched : Observation)
    (probes : ∀ (processId : Nat) (elapsed : Int),
      let task := taskOf options place processId
      elapsed < task.budget → given (some (Clock.millisToSeconds (task.probeTimeout elapsed)))) :
    (proceed patience sandbox logger options place launched).outcome.Confined
      (sandbox.Does given) := by
  rw [proceed]
  split
  · exact ⟨trivial, fun _ => trivial⟩
  · split
    · exact ⟨trivial, fun _ => trivial⟩
    next processId _ =>
      refine Attempt.confined_bind ⟨trivial, fun _ => trivial⟩ fun _ => ?_
      refine Attempt.confined_bind (confined_awaitProcess (probes processId)) fun completed => ?_
      exact confined_collect reads place _

theorem confined_run (detached : options.mode = .detached) (gives : options.GivesOnly given)
    (command : Bytes) :
    (run patience sandbox logger command options).outcome.Confined (sandbox.Does given) := by
  rw [RunOptions.GivesOnly, detached] at gives
  obtain ⟨launches, reads, probes⟩ := gives
  refine Attempt.confined_bind confined_choosePlace fun place => ?_
  refine Attempt.confined_bind (sandbox.confined_runInSession _ _ launches) fun launched => ?_
  exact confined_proceed reads place launched (probes place)

end Detached

/-! ## Runs -/

namespace Sandbox

variable {given : Option Float → Prop} (sandbox : Sandbox) (patience : Nat)

theorem confined_ensureSession (session : Bytes) :
    (sandbox.ensureSession session).outcome.Confined (sandbox.Does given) := by
  have created : (sandbox.createSession { session }).settled.outcome.Confined (sandbox.Does given) :=
    (sandbox.confined_createSession _).bind fun _ => trivial
  refine Attempt.confined_bind created fun outcome => ?_
  cases outcome with
  | ok response => trivial
  | error error =>
      simp only
      split
      · exact ⟨trivial, fun _ => trivial⟩
      · trivial

theorem confined_run (command : Bytes) {options : RunOptions} (gives : options.GivesOnly given) :
    (sandbox.run patience command options).outcome.Confined (sandbox.Does given) := by
  refine Attempt.confined_bind trivial fun _ => ?_
  cases mode : options.mode with
  | detached => exact Detached.confined_run mode gives command
  | normal =>
      rw [RunOptions.GivesOnly, mode] at gives
      refine Attempt.confined_bind (sandbox.confined_ensureSession _) fun _ => ?_
      exact sandbox.confined_runInSession _ _ gives

theorem confined_runWithRetry (command : Bytes) {options : RunOptions}
    (gives : options.GivesOnly given) (policy : Backoff) :
    (sandbox.runWithRetry patience command options policy).outcome.Confined (sandbox.Does given) := by
  refine confined_retryAttempt ?_ policy _
  refine Attempt.confined_bind (sandbox.confined_run patience command gives) fun observation => ?_
  split <;> trivial

end Sandbox

/-! ## Capabilities -/

variable {given : Option Float → Prop} (sandbox : Sandbox) (patience : Nat)

theorem Ownership.confined_apply (name : Bytes) (arguments : List Bytes) :
    (apply sandbox name arguments).outcome.Confined (sandbox.Does given) := by
  refine Attempt.confined_bind ⟨trivial, fun _ => trivial⟩ fun _ => ?_
  refine Attempt.confined_bind (sandbox.confined_execute _) fun response => ?_
  exact Attempt.confined_bind trivial fun _ => trivial

theorem Ownership.confined_changeOwner (user : Bytes) (paths : List Bytes) (recursive : Bool) :
    (changeOwner sandbox user paths recursive).outcome.Confined (sandbox.Does given) := by
  refine Attempt.confined_bind trivial fun _ => ?_
  split
  · trivial
  · exact confined_apply sandbox _ _

theorem Ownership.confined_changeMode (mode : Bytes) (paths : List Bytes) (recursive : Bool) :
    (changeMode sandbox mode paths recursive).outcome.Confined (sandbox.Does given) :=
  Attempt.confined_bind trivial fun _ => confined_apply sandbox _ _

theorem Account.confined_isPresent (name : Bytes) :
    (isPresent sandbox name).outcome.Confined (sandbox.Does given) := by
  refine Attempt.confined_bind (sandbox.confined_execute _) fun response => ?_
  split
  · exact ⟨trivial, fun _ => trivial⟩
  · trivial

theorem Account.confined_create (name : Bytes) :
    (create sandbox name).outcome.Confined (sandbox.Does given) := by
  refine Attempt.confined_bind (confined_isPresent sandbox name) fun present => ?_
  split
  · trivial
  · refine Attempt.confined_bind (sandbox.confined_execute _) fun response => ?_
    exact Attempt.confined_bind trivial fun _ => ⟨trivial, fun _ => trivial⟩

/-- The options that the script of a package source is run with. -/
def Speedup.options (timeout : Int) : RunOptions :=
  { mode := .detached, waitTimeout := timeout }

theorem Speedup.confined_apply (kind : Speedup) (value : Bytes) {timeout : Int}
    (gives : (options timeout).GivesOnly given) :
    (apply patience sandbox kind value timeout).outcome.Confined (sandbox.Does given) := by
  refine Attempt.confined_bind trivial fun id => ?_
  refine Attempt.confined_bind ⟨trivial, fun _ => trivial⟩ fun _ => ?_
  refine Attempt.confined_bind trivial fun script => ?_
  exact sandbox.confined_run patience _ gives

/-! ## Scripts -/

namespace Script

variable {script : Script}

theorem confined_submit (gives : script.options.GivesOnly given) (path : Bytes) :
    (submit patience sandbox script path).outcome.Confined (sandbox.Does given) := by
  refine Attempt.confined_bind ⟨trivial, fun _ => trivial⟩ fun _ => ?_
  refine Attempt.confined_bind (sandbox.confined_putFile _ _) fun written => ?_
  split
  · refine Attempt.confined_bind ⟨trivial, fun _ => trivial⟩ fun _ => ?_
    exact sandbox.confined_run patience _ gives
  · exact ⟨trivial, fun _ => trivial⟩

theorem confined_remove (path : Bytes) : (remove sandbox path).Confined (sandbox.Does given) := by
  refine ⟨trivial, fun _ => ?_⟩
  refine (sandbox.confined_execute _).bind fun outcome => ?_
  cases outcome with
  | ok response => trivial
  | error error => exact ⟨trivial, fun _ => trivial⟩

theorem confined_choosePath (script : Script) : script.choosePath.Confined (sandbox.Does given) := by
  rw [choosePath]
  split
  · trivial
  · exact ⟨trivial, fun _ => trivial⟩

theorem confined_observe (gives : script.options.GivesOnly given) :
    (observe patience sandbox script).Confined (sandbox.Does given) := by
  refine (confined_choosePath sandbox script).bind fun path => ?_
  refine (confined_submit sandbox patience gives path).bind fun outcome => ?_
  have ended : ∀ result : Observation, (do
      if script.cleanup then remove sandbox path
      return result : Program Observation).Confined (sandbox.Does given) := by
    intro result
    cases script.cleanup with
    | true => exact (confined_remove sandbox path).bind fun _ => trivial
    | false => trivial
  cases outcome with
  | ok observation => exact ended observation
  | error error => exact ⟨trivial, fun _ => ended _⟩

theorem confined_execute (gives : script.options.GivesOnly given) :
    (execute patience sandbox script).outcome.Confined (sandbox.Does given) := by
  refine Attempt.confined_bind trivial fun _ => ?_
  exact Attempt.confined_lift (confined_observe sandbox patience gives)

end Script

end SandboxClient
