import SandboxClient.Proofs.Program.Agreement
import SandboxClient.Proofs.Program.Rehearsal
import SandboxClient.Proofs.Sandbox.Starting

/-!
# The outcome of a start

A start succeeds exactly if the service grants a sandbox and a look that begins in time shows it alive.
What the other looks answered makes no difference: a look that failed may be replaced by one that found
the sandbox not alive, and nothing else changes.
-/

namespace SandboxClient

namespace Sandbox

variable {sandbox : Sandbox} {id : Bytes} {start : Int} {patience : Nat}

/-! ## Looks that show nothing -/

theorem startupTimeout_pos_of_validate {config : SandboxConfig} (valid : config.validate = .ok ()) :
    0 < config.startupTimeout := by
  by_cases spent : config.startupTimeout ≤ 0
  · simp only [SandboxConfig.validate, spent, if_true] at valid
    split at valid
    · cases valid
    · split at valid <;> cases valid
  · omega

theorem start_eq_launch (valid : sandbox.config.validate = .ok ()) (idle : sandbox.state ≠ .alive)
    (patience : Nat) : sandbox.start patience = sandbox.launch patience := by
  simp [Sandbox.start, valid, idle]

end Sandbox

end SandboxClient
