import SandboxClient.Proofs.Program.Confinement
import SandboxClient.Proofs.Program.Contact

/-!
# Silent programs

A silent program makes no calls and always comes to an end, with a result of which something is known.
What is done before, between and after the calls of a program is silent, so it can be passed over.
-/

namespace SandboxClient

namespace Program

variable {Result Other : Type} {expected : Result → Prop} {wanted : Other → Prop}
  {program : Program Result}

/-- Whatever the answers, a program makes no calls and ends with an expected result. -/
def Silent (expected : Result → Prop) : Program Result → Prop
  | .done result => expected result
  | .stalled => False
  | .act action next => action.IsQuiet ∧ ∀ answer, (next answer).Silent expected

theorem Silent.mono {weaker : Result → Prop} (silent : program.Silent expected)
    (implies : ∀ result, expected result → weaker result) : program.Silent weaker := by
  induction program with
  | done result => exact implies result silent
  | stalled => exact silent
  | act action next ih => exact ⟨silent.1, fun answer => ih answer (silent.2 answer)⟩

theorem Silent.bind {continuation : Result → Program Other} (first : program.Silent expected)
    (second : ∀ result, expected result → (continuation result).Silent wanted) :
    (program.bind continuation).Silent wanted := by
  induction program with
  | done result => exact second result first
  | stalled => exact first.elim
  | act action next ih => exact ⟨first.1, fun answer => ih answer (first.2 answer)⟩

/-- A silent program may do no more than what is permitted anyway. -/
theorem Silent.confined {allowed : Action → Prop} (silent : program.Silent expected)
    (permits : ∀ action, Action.IsQuiet action → allowed action) : program.Confined allowed := by
  induction program with
  | done result => trivial
  | stalled => trivial
  | act action next ih => exact ⟨permits action silent.1, fun answer => ih answer (silent.2 answer)⟩

theorem Silent.ends (silent : program.Silent expected) {events : List Event} {result? : Option Result}
    (admitted : program.Admits events result?) : ∃ result, result? = some result ∧ expected result := by
  induction admitted with
  | done result => exact ⟨result, rfl, silent⟩
  | stalled => exact silent.elim
  | act answer rest ih => exact ih (silent.2 answer)

theorem Silent.contacts_eq_nil (silent : program.Silent expected) {events : List Event}
    {result? : Option Result} (admitted : program.Admits events result?) :
    Event.contacts events = [] :=
  Event.contacts_eq_nil_of_isQuiet
    ((silent.confined fun _ => id).allowed_of_admits admitted)

/-- What follows a silent program makes all the calls, and has the result of the two. -/
theorem Silent.split {continuation : Result → Program Other} (silent : program.Silent expected)
    {events : List Event} {other? : Option Other}
    (admitted : (program.bind continuation).Admits events other?) :
    ∃ result before own, events = before ++ own ∧ program.Admits before (some result) ∧
      Event.contacts before = [] ∧ expected result ∧ (continuation result).Admits own other? := by
  rcases admits_bind_iff.mp admitted with ⟨result, before, own, rfl, first, follows⟩ | ⟨stalls, _⟩
  · obtain ⟨_, same, expects⟩ := silent.ends first
    cases same
    exact ⟨result, before, own, rfl, first, silent.contacts_eq_nil first, expects, follows⟩
  · obtain ⟨_, impossible, _⟩ := silent.ends stalls
    cases impossible

/-- A program writes a log record at most, and then has a result. -/
def Remarks (program : Program Result) (result : Result) : Prop :=
  program = .done result ∨ ∃ record, program = .act (.log record) fun _ => .done result

theorem Remarks.split {result : Result} {continuation : Result → Program Other}
    (remarks : program.Remarks result) {events : List Event} {other? : Option Other}
    (admitted : (program.bind continuation).Admits events other?) :
    ∃ notes own, events = notes ++ own ∧ (∀ note ∈ notes, note.action.isLog = true) ∧
      (continuation result).Admits own other? := by
  rcases remarks with rfl | ⟨record, rfl⟩
  · exact ⟨[], events, rfl, by simp, admitted⟩
  · obtain ⟨answer, own, rfl, follows⟩ := admits_act_iff.mp admitted
    exact ⟨[⟨.log record, answer⟩], own, rfl, List.forall_mem_singleton.mpr rfl, follows⟩

/-- A program that is followed by a silent one makes the same calls as the two together. -/
theorem admits_of_bind_silent {continuation : Result → Program Other} (change : Result → Other)
    {events : List Event} {other? : Option Other}
    (admitted : (program.bind continuation).Admits events other?)
    (silent : ∀ result, (continuation result).Silent (· = change result)) :
    ∃ own result?, program.Admits own result? ∧ Event.Trimmed own events ∧
      other? = result?.map change := by
  rcases admits_bind_iff.mp admitted with ⟨result, own, after, rfl, first, follows⟩ | ⟨stalls, rfl⟩
  · obtain ⟨_, rfl, rfl⟩ := (silent result).ends follows
    exact ⟨own, some result, first, (Event.Trimmed.refl own).before
      ((silent result).contacts_eq_nil follows), rfl⟩
  · exact ⟨events, none, stalls, .refl events, rfl⟩

end Program

end SandboxClient
