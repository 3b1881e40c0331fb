import SandboxClient.Proofs.Program.Behaviour
import SandboxClient.Group.Program

/-!
# Interleaved tasks

However the actions of the tasks of a fork interleave, each task on its own behaves as if it ran alone:
the events that it causes are those of one of its behaviours.
-/

namespace SandboxClient

/-- The events that an actor caused, in order. -/
def eventsOf (actor : Actor) (events : List GroupEvent) : List Event :=
  events.filterMap fun entry => if entry.1 = actor then some entry.2 else none

section EventsOf

variable {actor other : Actor} {events : List GroupEvent} {event : Event}

@[simp]
theorem eventsOf_nil (actor : Actor) : eventsOf actor [] = [] :=
  rfl

@[simp]
theorem eventsOf_append (actor : Actor) (first second : List GroupEvent) :
    eventsOf actor (first ++ second) = eventsOf actor first ++ eventsOf actor second := by
  simp [eventsOf]

@[simp]
theorem eventsOf_cons_self (actor : Actor) (event : Event) (events : List GroupEvent) :
    eventsOf actor ((actor, event) :: events) = event :: eventsOf actor events := by
  simp [eventsOf]

theorem eventsOf_cons_of_ne (different : other ≠ actor) (event : Event)
    (events : List GroupEvent) : eventsOf actor ((other, event) :: events) = eventsOf actor events := by
  simp [eventsOf, different]

theorem eventsOf_map_self (actor : Actor) (events : List Event) :
    eventsOf actor (events.map fun event => (actor, event)) = events := by
  induction events with
  | nil => rfl
  | cons event events ih => rw [List.map_cons, eventsOf_cons_self, ih]

theorem mem_eventsOf_of_mem {entry : GroupEvent} (member : entry ∈ events) :
    entry.2 ∈ eventsOf entry.1 events :=
  List.mem_filterMap.mpr ⟨entry, member, if_pos rfl⟩

theorem eventsOf_eq_nil (absent : ∀ entry ∈ events, entry.1 ≠ actor) : eventsOf actor events = [] := by
  rw [eventsOf, List.filterMap_eq_nil_iff]
  intro entry member
  rw [if_neg (absent entry member)]

end EventsOf

namespace GroupProgram

variable {State : Type} {fork : Nat} {tasks left : List (Program MemberOutcome)}
  {events : List GroupEvent} {ends : List (Option MemberOutcome)}

/-- What some tasks have done and how they ended: each by a behaviour of its own.  A task that never
ends has no end. -/
structure Forked (actorOf : Nat → Actor) (tasks : List (Program MemberOutcome))
    (events : List GroupEvent) (ends : List (Option MemberOutcome)) : Prop where
  length_eq : ends.length = tasks.length
  behaves : ∀ (index : Nat) (task : Program MemberOutcome) (outcome? : Option MemberOutcome),
    tasks[index]? = some task → ends[index]? = some outcome? →
      task.Admits (eventsOf (actorOf index) events) outcome?
  actors : ∀ entry ∈ events, ∃ index, index < tasks.length ∧ entry.1 = actorOf index

/-- The outcomes of tasks by their ends: there are none unless all tasks ended. -/
def Joined (ends : List (Option MemberOutcome)) (outcomes? : Option (List MemberOutcome)) : Prop :=
  (∃ outcomes, ends = outcomes.map some ∧ outcomes? = some outcomes) ∨
    (none ∈ ends ∧ outcomes? = none)

/-- What the tasks of a fork have done so far and what they have left to do: whatever ends what is left
of a task ends the task. -/
structure Begun (fork : Nat) (tasks left : List (Program MemberOutcome)) (events : List GroupEvent) :
    Prop where
  length_eq : left.length = tasks.length
  resumes : ∀ (index : Nat) (task remaining : Program MemberOutcome) (later : List Event)
    (outcome? : Option MemberOutcome), tasks[index]? = some task → left[index]? = some remaining →
      remaining.Admits later outcome? →
        task.Admits (eventsOf (.task fork index) events ++ later) outcome?
  actors : ∀ entry ∈ events, ∃ index, index < tasks.length ∧ entry.1 = .task fork index

namespace Begun

theorem refl (fork : Nat) (tasks : List (Program MemberOutcome)) : Begun fork tasks tasks [] where
  length_eq := rfl
  resumes := by
    intro index task remaining later outcome? task_eq remaining_eq admitted
    rw [task_eq] at remaining_eq
    cases remaining_eq
    exact admitted
  actors := by simp

theorem act {index : Nat} {action : Action} {next : action.Answer → Program MemberOutcome}
    (task_eq : tasks[index]? = some (.act action next)) (answer : action.Answer)
    (rest : Begun fork (tasks.set index (next answer)) left events) :
    Begun fork tasks left ((.task fork index, ⟨action, answer⟩) :: events) where
  length_eq := by simpa using rest.length_eq
  resumes := by
    intro other task remaining later outcome? other_eq remaining_eq admitted
    by_cases same : index = other
    · subst same
      obtain rfl : Program.act action next = task := by
        rw [task_eq] at other_eq
        exact Option.some.inj other_eq
      have inside : index < tasks.length := (List.getElem?_eq_some_iff.mp task_eq).1
      have replaced : (tasks.set index (next answer))[index]? = some (next answer) := by
        simp [inside]
      have resumed := rest.resumes index _ remaining later outcome? replaced remaining_eq admitted
      rw [eventsOf_cons_self]
      exact .act answer resumed
    · have kept : (tasks.set index (next answer))[other]? = some task := by
        rw [List.getElem?_set_ne same]
        exact other_eq
      have different : Actor.task fork index ≠ .task fork other := by
        simpa using same
      rw [eventsOf_cons_of_ne different]
      exact rest.resumes other task remaining later outcome? kept remaining_eq admitted
  actors := by
    intro entry member
    rcases List.mem_cons.mp member with rfl | later
    · exact ⟨index, (List.getElem?_eq_some_iff.mp task_eq).1, rfl⟩
    · simpa using rest.actors entry later

theorem finish {later : List GroupEvent} (begun : Begun fork tasks left events)
    (finished : Forked (.task fork) left later ends) :
    Forked (.task fork) tasks (events ++ later) ends where
  length_eq := by rw [finished.length_eq, begun.length_eq]
  behaves := by
    intro index task outcome? task_eq end_eq
    have inside : index < left.length := by
      rw [begun.length_eq]
      exact (List.getElem?_eq_some_iff.mp task_eq).1
    have remaining_eq : left[index]? = some left[index] := List.getElem?_eq_getElem inside
    rw [eventsOf_append]
    exact begun.resumes index task left[index] _ outcome? task_eq remaining_eq
      (finished.behaves index _ outcome? remaining_eq end_eq)
  actors := by
    intro entry member
    rcases List.mem_append.mp member with first | second
    · exact begun.actors entry first
    · rw [← begun.length_eq]
      exact finished.actors entry second

end Begun

theorem begun_interleave (world : GroupWorld State) (fork : Nat) (schedule : List Nat)
    (tasks : List (Program MemberOutcome)) (state : State) :
    let acted := interleave world fork schedule tasks state
    Begun fork tasks acted.1 acted.2.1 := by
  induction schedule generalizing tasks state with
  | nil => exact .refl fork tasks
  | cons index schedule ih =>
      -- an entry whose task has nothing left to do is passed over
      simp only [interleave]
      split
      next action next task_eq => exact .act task_eq _ (ih _ _)
      next => exact ih tasks state

theorem forked_finish (world : GroupWorld State) (fork first : Nat)
    (tasks : List (Program MemberOutcome)) (state : State) :
    let run := finish world fork first tasks state
    ∃ ends, Forked (fun index => .task fork (first + index)) tasks run.events ends ∧
      Joined ends run.result? := by
  induction tasks generalizing first state with
  | nil => exact ⟨[], ⟨rfl, by simp, by simp [finish]⟩, .inl ⟨[], rfl, rfl⟩⟩
  | cons task tasks ih =>
      let own := task.run (world.seenBy (.task fork first)) state
      obtain ⟨ends, forked, joined⟩ := ih (first + 1) own.state
      have shift : ∀ index, first + (index + 1) = first + 1 + index := by omega
      refine ⟨own.result? :: ends, ⟨by simp [forked.length_eq], ?_, ?_⟩, ?_⟩
      · intro index other outcome? task_eq end_eq
        simp only [finish, eventsOf_append]
        cases index with
        | zero =>
            obtain rfl : task = other := by simpa using task_eq
            obtain rfl : own.result? = outcome? := by simpa using end_eq
            have others : eventsOf (.task fork (first + 0))
                (finish world fork (first + 1) tasks own.state).events = [] := by
              apply eventsOf_eq_nil
              intro entry member same
              obtain ⟨index, _, actor_eq⟩ := forked.actors entry member
              rw [actor_eq, Actor.task.injEq] at same
              omega
            rw [others, List.append_nil, Nat.add_zero, eventsOf_map_self]
            exact Program.admits_run _ task state
        | succ index =>
            have mine : eventsOf (.task fork (first + (index + 1)))
                (own.events.map fun event => (Actor.task fork first, event)) = [] := by
              apply eventsOf_eq_nil
              intro entry member same
              obtain ⟨event, _, rfl⟩ := List.mem_map.mp member
              rw [Actor.task.injEq] at same
              omega
            rw [mine, List.nil_append, shift]
            exact forked.behaves index other outcome? (by simpa using task_eq) (by simpa using end_eq)
      · intro entry member
        rcases List.mem_append.mp member with here | later
        · obtain ⟨event, _, rfl⟩ := List.mem_map.mp here
          exact ⟨0, by simp, rfl⟩
        · obtain ⟨index, inside, actor_eq⟩ := forked.actors entry later
          exact ⟨index + 1, by simpa using inside,
            actor_eq.trans (congrArg (Actor.task fork) (shift index).symm)⟩
      · simp only [finish]
        cases own.result? with
        | none => exact .inr ⟨by simp, by simp⟩
        | some outcome =>
            rcases joined with ⟨outcomes, rfl, rest_eq⟩ | ⟨missing, rest_eq⟩
            · exact .inl ⟨outcome :: outcomes, rfl, by simp [own, rest_eq]⟩
            · exact .inr ⟨by simp [missing], by simp [own, rest_eq]⟩

/-- Whatever the schedule, the tasks of a fork behave like themselves, and the fork has outcomes exactly
if all of them end. -/
theorem forked_runTasks (world : GroupWorld State) (fork : Nat) (schedule : List Nat)
    (tasks : List (Program MemberOutcome)) (state : State) :
    let run := runTasks world fork schedule tasks state
    ∃ ends, Forked (.task fork) tasks run.events ends ∧ Joined ends run.result? := by
  let acted := interleave world fork schedule tasks state
  obtain ⟨ends, forked, joined⟩ := forked_finish world fork 0 acted.1 acted.2.2
  simp only [Nat.zero_add] at forked
  exact ⟨ends, (begun_interleave world fork schedule tasks state).finish forked, joined⟩

end GroupProgram

end SandboxClient
