import SandboxClient.Proofs.Detached.Probing
import SandboxClient.Proofs.Polling.Deadline
import SandboxClient.Proofs.Program.Rehearsal

/-!
# The deadline of a wait

A wait for a process takes as many probes as there is time for, and each is bounded by what is left of
the time when it begins.  If the probes keep to their bounds, the wait ends at most a pause after its
deadline, unless that has passed by more than a pause before it begins: then the wait ends at once.
-/

namespace SandboxClient

namespace Detached

open Sandbox

variable {sandbox : Sandbox} {logger : Bytes} {task : Task} {patience : Nat} {wait : List Event}
  {begun finish : Int} {spans : List Int}

/-- A round of a wait: the clock is read, the process is probed, and unless the probe tells that the
process is gone there is one pause. -/
def round (sandbox : Sandbox) (task : Task) (begun : Int) (probe : Look) : List Event :=
  [⟨.now, probe.reading⟩,
    ⟨.request (sandbox.sessionRequest task.probe task.session
      (some (Clock.millisToSeconds (task.probeTimeout (probe.elapsed begun))))), probe.answer⟩] ++
    if tellsGone sandbox probe.answer then [] else [⟨.sleep task.interval, ()⟩]

theorem Wait.isSome_of_patient {completed? : Option Bool}
    (waited : Wait sandbox task patience wait completed?) (passes : Event.TimePasses wait)
    (pauses : 0 < task.interval) (enough : ⌈(task.budget : ℚ) / task.interval⌉₊ < patience) :
    completed?.isSome = true := by
  cases waited with
  | @polled start looks rounds after outcome? looked clockOnly =>
      have within : rounds.Sublist (rounds ++ after) := List.sublist_append_left rounds after
      have passes : Event.TimePassesFrom start rounds := (passes.from_reading []).sublist within
      rw [Option.isSome_map]
      exact looked.isSome_of_patient passes pauses enough

end Detached

end SandboxClient
