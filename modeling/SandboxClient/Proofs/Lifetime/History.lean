import SandboxClient.Proofs.Lifetime.Operation

/-!
# Histories of a handle

What a handle went through since it was made: one deed for each operation that came back.  The state and
the identity of a handle can be read off its history.  They depend on the latest start that did more
than refuse, and on whether the handle was stopped since.
-/

namespace SandboxClient

/-- An operation that came back: the handle before and after it, its events, and whether it failed. -/
structure Deed where
  operation : Operation
  before : Sandbox
  events : List Event
  outcome : Except Error Unit
  after : Sandbox

namespace Deed

/-- A start that did more than refuse: the handle was not alive and its configuration is valid. -/
def Starts (deed : Deed) : Prop :=
  deed.operation = .start ∧ deed.before.state ≠ .alive ∧ deed.before.config.validate = .ok ()

theorem not_starts {deed : Deed} (other : deed.operation ≠ .start) : ¬ deed.Starts :=
  fun starts => other starts.1

def handleAfter (sandbox : Sandbox) : List Deed → Sandbox
  | [] => sandbox
  | deed :: deeds => handleAfter deed.after deeds

end Deed

/-- Performs operations on a handle one after the other, up to the first that does not come back. -/
def Sandbox.serve {State : Type} (world : World State) (patience : Nat) :
    List Operation → Sandbox → State → List Deed
  | [], _, _ => []
  | operation :: operations, sandbox, state =>
    let run := (operation.perform patience sandbox).run world state
    match run.result? with
    | none => []
    | some (outcome, after) =>
      ⟨operation, sandbox, run.events, outcome, after⟩ ::
        serve world patience operations after run.state

/-! ## Lifetimes -/

/-- A handle lives through deeds: each operation is performed on the handle that the one before left. -/
inductive Lifetime : Sandbox → List Deed → Sandbox → Prop
  | idle (sandbox : Sandbox) : Lifetime sandbox [] sandbox
  | act {patience : Nat} {operation : Operation} {before after last : Sandbox} {events : List Event}
      {outcome : Except Error Unit} {deeds : List Deed}
      (admitted : (operation.perform patience before).Admits events (some (outcome, after)))
      (rest : Lifetime after deeds last) :
      Lifetime before (⟨operation, before, events, outcome, after⟩ :: deeds) last

namespace Lifetime

variable {first middle last : Sandbox} {earlier later : List Deed}

theorem append (before : Lifetime first earlier middle) (after : Lifetime middle later last) :
    Lifetime first (earlier ++ later) last := by
  induction before with
  | idle => exact after
  | act admitted _ ih => exact .act admitted (ih after)

theorem split (life : Lifetime first (earlier ++ later) last) :
    ∃ middle, Lifetime first earlier middle ∧ Lifetime middle later last := by
  induction earlier generalizing first with
  | nil => exact ⟨first, .idle first, life⟩
  | cons deed earlier ih =>
      cases life with
      | act admitted rest =>
          obtain ⟨middle, before, after⟩ := ih rest
          exact ⟨middle, .act admitted before, after⟩

end Lifetime

theorem lifetime_serve {State : Type} (world : World State) (patience : Nat)
    (operations : List Operation) (sandbox : Sandbox) (state : State) (count : Nat) :
    let deeds := (Sandbox.serve world patience operations sandbox state).take count
    Lifetime sandbox deeds (Deed.handleAfter sandbox deeds) := by
  induction operations generalizing sandbox state count with
  | nil => simpa [Sandbox.serve, Deed.handleAfter] using .idle sandbox
  | cons operation operations ih =>
      cases count with
      | zero => exact .idle sandbox
      | succ count =>
          have admitted := Program.admits_run world (operation.perform patience sandbox) state
          simp only [Sandbox.serve]
          split
          next stalled => exact .idle sandbox
          next outcome after result_eq =>
            rw [result_eq] at admitted
            exact .act admitted (ih after _ count)

/-! ## The latest start -/

/-- A deed is the latest start, and these are the deeds since. -/
def LatestStart (deeds : List Deed) (deed : Deed) (since : List Deed) : Prop :=
  ∃ earlier, deeds = earlier ++ deed :: since ∧ deed.Starts ∧ ∀ other ∈ since, ¬ other.Starts

variable {deeds since : List Deed} {deed latest : Deed}

theorem last_or_since {earlier : List Deed} (equal : deeds ++ [deed] = earlier ++ latest :: since) :
    (latest = deed ∧ since = []) ∨
      ∃ init, since = init ++ [deed] ∧ deeds = earlier ++ latest :: init := by
  rcases List.eq_nil_or_concat since with rfl | ⟨init, last, rfl⟩
  · obtain ⟨_, same⟩ := List.append_inj' equal rfl
    exact .inl ⟨(List.singleton_inj.mp same).symm, rfl⟩
  · have regrouped : deeds ++ [deed] = (earlier ++ latest :: init) ++ [last] := by
      simpa using equal
    obtain ⟨rfl, same⟩ := List.append_inj' regrouped rfl
    obtain rfl := List.singleton_inj.mp same
    exact .inr ⟨init, by simp, rfl⟩

theorem latestStart_append_of_starts (starts : deed.Starts) :
    LatestStart (deeds ++ [deed]) latest since ↔ latest = deed ∧ since = [] := by
  constructor
  · rintro ⟨earlier, equal, _, idle⟩
    rcases last_or_since equal with last | ⟨init, rfl, _⟩
    · exact last
    · exact absurd starts (idle deed (by simp))
  · rintro ⟨rfl, rfl⟩
    exact ⟨deeds, rfl, starts, by simp⟩

theorem latestStart_append_of_not_starts (idle : ¬ deed.Starts) :
    LatestStart (deeds ++ [deed]) latest since ↔
      ∃ init, since = init ++ [deed] ∧ LatestStart deeds latest init := by
  constructor
  · rintro ⟨earlier, equal, starts, others⟩
    rcases last_or_since equal with ⟨rfl, _⟩ | ⟨init, rfl, rfl⟩
    · exact absurd starts idle
    · exact ⟨init, rfl, earlier, rfl, starts, fun other member => others other (by simp [member])⟩
  · rintro ⟨init, rfl, earlier, rfl, starts, others⟩
    exact ⟨earlier, by simp, starts,
      List.forall_mem_append.mpr ⟨others, List.forall_mem_singleton.mpr idle⟩⟩

end SandboxClient
