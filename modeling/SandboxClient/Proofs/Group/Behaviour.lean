import SandboxClient.Proofs.Group.Interleaving

/-!
# Behaviours of group programs

A behaviour of a group program is a list of events that the group and the tasks of its forks may cause,
together with the result.  The run of a group program is one of its behaviours, whatever the world
answers and however the tasks interleave.
-/

namespace SandboxClient

namespace GroupProgram

variable {Result Other State : Type} {fork : Nat} {events : List GroupEvent}
  {result? : Option Result}

theorem bind_assoc {Last : Type} (program : GroupProgram Result) (first : Result → GroupProgram Other)
    (second : Other → GroupProgram Last) :
    (program.bind first).bind second = program.bind fun result => (first result).bind second := by
  induction program with
  | done result => rfl
  | act action next ih => simp [GroupProgram.bind, ih]
  | fork tasks next ih => simp [GroupProgram.bind, ih]

/-- A group program whose forks are numbered from `fork` on may cause a list of events and end with a
result, or never end. -/
inductive Admits : (fork : Nat) → GroupProgram Result → List GroupEvent → Option Result → Prop
  | done {fork : Nat} (result : Result) : Admits fork (.done result) [] (some result)
  | act {fork : Nat} {action : Action} {next : action.Answer → GroupProgram Result}
      {events : List GroupEvent} {result? : Option Result} (answer : action.Answer)
      (rest : Admits fork (next answer) events result?) :
      Admits fork (.act action next) ((.group, ⟨action, answer⟩) :: events) result?
  | joined {fork : Nat} {tasks : List (Program MemberOutcome)} {outcomes : List MemberOutcome}
      {next : List MemberOutcome → GroupProgram Result} {first second : List GroupEvent}
      {result? : Option Result} (forked : Forked (.task fork) tasks first (outcomes.map some))
      (rest : Admits (fork + 1) (next outcomes) second result?) :
      Admits fork (.fork tasks next) (first ++ second) result?
  | stuck {fork : Nat} {tasks : List (Program MemberOutcome)}
      {next : List MemberOutcome → GroupProgram Result} {events : List GroupEvent}
      {ends : List (Option MemberOutcome)} (forked : Forked (.task fork) tasks events ends)
      (missing : none ∈ ends) : Admits fork (.fork tasks next) events none

/-- Whatever the world answers and however the tasks interleave, a run is a behaviour. -/
theorem admits_runFrom (world : GroupWorld State) (schedules : Nat → List Nat) (fork : Nat)
    (program : GroupProgram Result) (state : State) :
    program.Admits fork (runFrom world schedules fork program state).events
      (runFrom world schedules fork program state).result? := by
  induction program generalizing fork state with
  | done result => exact .done result
  | act action next ih => exact .act _ (ih _ _ _)
  | fork tasks next ih =>
      obtain ⟨ends, forked, joined⟩ := forked_runTasks world fork (schedules fork) tasks state
      rcases joined with ⟨outcomes, rfl, result_eq⟩ | ⟨missing, result_eq⟩
      · simp only [runFrom, result_eq]
        exact .joined forked (ih _ _ _)
      · simp only [runFrom, result_eq]
        exact .stuck forked missing

theorem admits_done_iff {result : Result} :
    (GroupProgram.done result).Admits fork events result? ↔ events = [] ∧ result? = some result := by
  constructor
  · intro admitted
    cases admitted
    exact ⟨rfl, rfl⟩
  · rintro ⟨rfl, rfl⟩
    exact .done result

theorem admits_act_iff {action : Action} {next : action.Answer → GroupProgram Result} :
    (GroupProgram.act action next).Admits fork events result? ↔
      ∃ answer rest, events = (.group, ⟨action, answer⟩) :: rest ∧
        (next answer).Admits fork rest result? := by
  constructor
  · intro admitted
    cases admitted with
    | act answer rest => exact ⟨answer, _, rfl, rest⟩
  · rintro ⟨answer, rest, rfl, admitted⟩
    exact .act answer admitted

theorem admits_fork_iff {tasks : List (Program MemberOutcome)}
    {next : List MemberOutcome → GroupProgram Result} :
    (GroupProgram.fork tasks next).Admits fork events result? ↔
      (∃ outcomes first second, events = first ++ second ∧
        Forked (.task fork) tasks first (outcomes.map some) ∧
        (next outcomes).Admits (fork + 1) second result?) ∨
      (∃ ends, Forked (.task fork) tasks events ends ∧ none ∈ ends ∧ result? = none) := by
  constructor
  · intro admitted
    cases admitted with
    | joined forked rest => exact .inl ⟨_, _, _, rfl, forked, rest⟩
    | stuck forked missing => exact .inr ⟨_, forked, missing, rfl⟩
  · rintro (⟨outcomes, first, second, rfl, forked, rest⟩ | ⟨ends, forked, missing, rfl⟩)
    · exact .joined forked rest
    · exact .stuck forked missing

theorem admits_of_map {program : GroupProgram Result} {change : Result → Other} {other? : Option Other}
    (admitted : (program.bind fun result => .done (change result)).Admits fork events other?) :
    ∃ result?, program.Admits fork events result? ∧ other? = result?.map change := by
  induction program generalizing fork events with
  | done result =>
      obtain ⟨rfl, rfl⟩ := admits_done_iff.mp admitted
      exact ⟨some result, .done result, rfl⟩
  | act action next ih =>
      obtain ⟨answer, rest, rfl, follows⟩ := admits_act_iff.mp admitted
      obtain ⟨result?, inner, rfl⟩ := ih answer follows
      exact ⟨result?, .act answer inner, rfl⟩
  | fork tasks next ih =>
      rcases admits_fork_iff.mp admitted with
        ⟨outcomes, first, second, rfl, forked, follows⟩ | ⟨ends, forked, missing, rfl⟩
      · obtain ⟨result?, inner, rfl⟩ := ih outcomes follows
        exact ⟨result?, .joined forked inner, rfl⟩
      · exact ⟨none, .stuck forked missing, rfl⟩

end GroupProgram

end SandboxClient
