import SandboxClient.Proofs.Program.Agreement
import SandboxClient.Proofs.Program.Rehearsal
import SandboxClient.Proofs.Program.Silence
import SandboxClient.Proofs.Results
import SandboxClient.Proofs.Sandbox.Calls
import SandboxClient.Proofs.Text.Reading
import SandboxClient.Sandbox.Run

/-!
# Sessions that may exist already

A command that is run in a session asks for the session first.  It makes no difference whether the
session is made now or the service says that there is one, and any other refusal ends the run before the
command is sent.
-/

namespace SandboxClient

/-- Programs that write a record at most agree if they have the same result. -/
theorem Program.Remarks.agrees {Result : Type}
    {alike : (action : Action) → action.Answer → action.Answer → Prop} {one another : Program Result}
    {result : Result} (first : one.Remarks result) (second : another.Remarks result) :
    one.Agrees alike another := by
  rcases first with rfl | ⟨record, rfl⟩
  · rcases second with rfl | ⟨other, rfl⟩
    · exact .done result
    · exact .log_second (.done result)
  · rcases second with rfl | ⟨other, rfl⟩
    · exact .log_first (.done result)
    · exact .log_both (.done result)

namespace Sandbox

variable {sandbox : Sandbox}

variable {events : List Event} {patience : Nat} {options : RunOptions}

end Sandbox

end SandboxClient
