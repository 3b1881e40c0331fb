import SandboxClient.Proofs.Group.Start
import SandboxClient.Proofs.Lifetime.Stopping

/-!
# Histories of a group

What a group went through since it was made: it was started and stopped, in some order, and each time
its members acted at the same time.  Seen from one member this is a lifetime of a single handle, made of
its own starts and stops.
-/

namespace SandboxClient

/-- What can be asked of a group. -/
inductive GroupOperation where
  | start
  | stop
  deriving DecidableEq, Repr

namespace GroupOperation

/-- The program of an operation: whether it failed, and the group afterwards. -/
def perform (patience : Nat) (group : Group) :
    GroupOperation → GroupProgram (Except Error Unit × Group)
  | .start => group.start patience
  | .stop => group.stop.bind fun after => .done (.ok (), after)

/-- The task that a member acts as in an operation. -/
def actorOf (group : Group) (index : Nat) : GroupOperation → Actor
  | .start => group.actorOf index
  | .stop => .task 0 index

end GroupOperation

/-- An operation on a group that came back. -/
structure GroupDeed where
  operation : GroupOperation
  before : Group
  events : List GroupEvent
  outcome : Except Error Unit
  after : Group

namespace GroupDeed

/-- The calls that a member made. -/
def callsOf (index : Nat) (deed : GroupDeed) : List Contact :=
  Event.contacts (eventsOf (deed.operation.actorOf deed.before index) deed.events)

def groupAfter (group : Group) : List GroupDeed → Group
  | [] => group
  | deed :: deeds => groupAfter deed.after deeds

end GroupDeed

/-- Performs operations on a group one after the other, up to the first that does not come back.  Each
comes with schedules for its forks. -/
def Group.serve {State : Type} (world : GroupWorld State) (patience : Nat) :
    List (GroupOperation × (Nat → List Nat)) → Group → State → List GroupDeed
  | [], _, _ => []
  | (operation, schedules) :: operations, group, state =>
    let run := (operation.perform patience group).runFrom world schedules 0 state
    match run.result? with
    | none => []
    | some (outcome, after) =>
      ⟨operation, group, run.events, outcome, after⟩ ::
        serve world patience operations after run.state

/-- A group lives through deeds: each operation is performed on the group that the one before left. -/
inductive GroupLifetime : Group → List GroupDeed → Group → Prop
  | idle (group : Group) : GroupLifetime group [] group
  | act {patience : Nat} {operation : GroupOperation} {before after last : Group}
      {events : List GroupEvent} {outcome : Except Error Unit} {deeds : List GroupDeed}
      (admitted : (operation.perform patience before).Admits 0 events (some (outcome, after)))
      (rest : GroupLifetime after deeds last) :
      GroupLifetime before (⟨operation, before, events, outcome, after⟩ :: deeds) last

theorem groupLifetime_serve {State : Type} (world : GroupWorld State) (patience : Nat)
    (operations : List (GroupOperation × (Nat → List Nat))) (group : Group) (state : State)
    (count : Nat) :
    let deeds := (Group.serve world patience operations group state).take count
    GroupLifetime group deeds (GroupDeed.groupAfter group deeds) := by
  induction operations generalizing group state count with
  | nil => simpa [Group.serve, GroupDeed.groupAfter] using .idle group
  | cons entry operations ih =>
      obtain ⟨operation, schedules⟩ := entry
      cases count with
      | zero => exact .idle group
      | succ count =>
          have admitted := GroupProgram.admits_runFrom world schedules 0
            (operation.perform patience group) state
          simp only [Group.serve]
          split
          next stalled => exact .idle group
          next outcome after result_eq =>
            rw [result_eq] at admitted
            exact .act admitted (ih after _ count)

/-! ## The part of one member -/

/-- A part in the life of a member: the deeds it is made of, the handle they leave, and the calls of a
start that has not come back. -/
structure MemberPart (member : Sandbox) (calls : List Contact) (deeds : List Deed) (handle : Sandbox)
    (underway : List Contact) : Prop where
  lifetime : Lifetime member deeds handle
  calls_eq : calls = deeds.flatMap Deed.calls ++ underway
  /-- What has not come back stops no sandbox. -/
  unstopping : handle.stopCalls underway = 0

namespace MemberPart

variable {member : Sandbox} {patience : Nat} {own : List Event}

theorem idle (member : Sandbox) : MemberPart member [] [] member [] where
  lifetime := .idle member
  calls_eq := rfl
  unstopping := rfl

theorem of_deed {operation : Operation} {outcome : Except Error Unit} {after : Sandbox}
    (admitted : (operation.perform patience member).Admits own (some (outcome, after))) :
    MemberPart member (Event.contacts own) [⟨operation, member, own, outcome, after⟩] after [] where
  lifetime := .act admitted (.idle after)
  calls_eq := by simp [Deed.calls]
  unstopping := rfl

/-- The attempts at starting a member are starts in its life. -/
theorem of_course {count : Nat} {outcome? : Option MemberOutcome}
    (course : Retry.Course (Sandbox.start patience) count member own outcome?) :
    ∃ deeds handle underway, MemberPart member (Event.contacts own) deeds handle underway ∧
      ∀ outcome after, outcome? = some (outcome, after) → underway = [] ∧ handle = after := by
  induction course with
  | @succeeded member after own result attempt =>
      have admitted : (Operation.start.perform patience member).Admits own
          (some (.ok result, after)) := attempt
      refine ⟨_, after, [], .of_deed admitted, ?_⟩
      rintro outcome other ⟨⟩
      exact ⟨rfl, rfl⟩
  | @failed member after own notes error attempt silent =>
      have admitted : (Operation.start.perform patience member).Admits own
          (some (.error error, after)) := attempt
      refine ⟨[⟨.start, member, own, .error error, after⟩], after, [], ?_, ?_⟩
      · rw [Event.contacts_append, silent, List.append_nil]
        exact .of_deed admitted
      · rintro outcome other ⟨⟩
        exact ⟨rfl, rfl⟩
  | @endless member own attempt =>
      have admitted : (Operation.start.perform patience member).Admits own none := attempt
      have goesOn : Operation.start.stops = false := rfl
      have unstopping := Operation.stopCalls_eq_zero goesOn admitted
      refine ⟨[], member, Event.contacts own, ⟨.idle member, rfl, unstopping⟩, ?_⟩
      intro outcome after result_eq
      cases result_eq
  | @again count member between own pause later error outcome? attempt silent rest ih =>
      have admitted : (Operation.start.perform patience member).Admits own
          (some (.error error, between)) := attempt
      obtain ⟨deeds, handle, underway, part, ends⟩ := ih
      refine ⟨_ :: deeds, handle, underway, ⟨.act admitted part.lifetime, ?_, part.unstopping⟩, ends⟩
      simp [silent, part.calls_eq, Deed.calls]

end MemberPart

namespace Group

variable {group : Group} {patience index : Nat} {member : Sandbox} {events : List GroupEvent}
  {result? : Option (Except Error Unit × Group)}

/-! ## Starting -/

theorem StartAccount.length_le {ends : List (Option MemberOutcome)}
    (account : StartAccount patience group events ends result?) :
    ends.length ≤ group.members.length := by
  have bounded : ∀ index, group.batchEnd index ≤ group.members.length := fun _ => Nat.min_le_left _ _
  cases result_eq : result? with
  | none =>
      obtain ⟨index, _, length_eq⟩ := account.endless result_eq
      rw [length_eq]
      exact bounded index
  | some result =>
      obtain ⟨outcome, after⟩ := result
      cases outcome with
      | ok _ => exact Nat.le_of_eq (account.succeeded after result_eq).1
      | error error =>
          obtain ⟨_, index, _, rfl, length_eq, _⟩ := account.failed error after result_eq
          rw [List.length_map, length_eq]
          exact bounded index

/-- A start that comes back leaves each member as its own attempts left it, or as it was. -/
theorem StartAccount.getElem?_members {ends : List (Option MemberOutcome)} {after : Group}
    {outcome : Except Error Unit}
    (account : StartAccount patience group events ends (some (outcome, after))) :
    after.members.length = group.members.length ∧ none ∉ ends ∧
      (∀ (index : Nat) verdict handle, ends[index]? = some (some (verdict, handle)) →
        after.members[index]? = some handle) ∧
      ∀ index, ends.length ≤ index → after.members[index]? = group.members[index]? := by
  cases outcome with
  | ok _ =>
      obtain ⟨counted, rfl⟩ := account.succeeded after rfl
      rw [List.length_map] at counted
      refine ⟨counted, by simp, ?_, ?_⟩
      · intro index verdict handle end_eq
        rw [List.getElem?_map, Option.map_eq_some_iff] at end_eq
        obtain ⟨_, handle_eq, same⟩ := end_eq
        cases same
        exact handle_eq
      · intro index beyond
        rw [List.length_map] at beyond
        rw [List.getElem?_eq_none beyond, List.getElem?_eq_none (by omega)]
  | error error =>
      have reached := account.length_le
      obtain ⟨outcomes, failed, _, rfl, counted, _, _, members_eq⟩ := account.failed error after rfl
      rw [List.length_map] at reached
      refine ⟨?_, by simp, ?_, ?_⟩
      · rw [members_eq, List.length_append, List.length_map, List.length_drop]
        omega
      · intro index verdict handle end_eq
        have outcome_eq : outcomes[index]? = some (verdict, handle) := by simpa using end_eq
        have inside := (List.getElem?_eq_some_iff.mp outcome_eq).1
        rw [members_eq, List.getElem?_append_left (by simpa using inside)]
        simp [outcome_eq]
      · intro index beyond
        rw [List.length_map] at beyond
        rw [members_eq, List.getElem?_append_right (by simpa using beyond), List.getElem?_drop,
          List.length_map]
        congr 1
        omega

theorem memberPart_start (valid : group.config.validate = .ok ())
    (admitted : (group.start patience).Admits 0 events result?)
    (member_eq : group.members[index]? = some member) :
    ∃ deeds handle underway,
      MemberPart member (Event.contacts (eventsOf (group.actorOf index) events)) deeds handle underway ∧
      ∀ outcome after, result? = some (outcome, after) →
        underway = [] ∧ after.members[index]? = some handle := by
  obtain ⟨ends, account⟩ := startAccount_of_admits valid admitted
  by_cases reached : index < ends.length
  · have end_eq := List.getElem?_eq_getElem reached
    obtain ⟨_, _, course, _⟩ := account.tried index member _ member_eq end_eq
    obtain ⟨deeds, handle, underway, part, ends_so⟩ := MemberPart.of_course course
    refine ⟨deeds, handle, underway, part, ?_⟩
    rintro outcome after rfl
    obtain ⟨_, joined, placed, _⟩ := account.getElem?_members
    cases outcome_eq : ends[index] with
    | none => exact absurd (List.mem_of_getElem? (outcome_eq ▸ end_eq)) joined
    | some outcome =>
        obtain ⟨verdict, own⟩ := outcome
        obtain ⟨finished, rfl⟩ := ends_so verdict own outcome_eq
        exact ⟨finished, placed index verdict handle (outcome_eq ▸ end_eq)⟩
  · have beyond : ends.length ≤ index := by omega
    refine ⟨[], member, [], ?_, ?_⟩
    · rw [account.untouched index beyond]
      exact .idle member
    · rintro outcome after rfl
      obtain ⟨_, _, _, kept⟩ := account.getElem?_members
      exact ⟨rfl, (kept index beyond).trans member_eq⟩

/-! ## Stopping -/

/-- Stopping a group always comes to an end, as stopping each of its members does. -/
theorem admits_stop {group? : Option Group} (admitted : group.stop.Admits 0 events group?) :
    ∃ (note : GroupEvent) (outcomes : List MemberOutcome) (own : List GroupEvent),
      events = note :: own ∧ (note.1 = .group ∧ note.2.action.isLog = true) ∧
      GroupProgram.Forked (.task 0) (group.members.map stopMember) own (outcomes.map some) ∧
      group? = some { group with members := outcomes.map Prod.snd } := by
  obtain ⟨_, own, rfl, forks⟩ := GroupProgram.admits_act_iff.mp admitted
  rcases GroupProgram.admits_fork_iff.mp forks with
    ⟨outcomes, first, second, rfl, forked, ended⟩ | ⟨ends, forked, missing, _⟩
  · obtain ⟨rfl, rfl⟩ := GroupProgram.admits_done_iff.mp ended
    rw [List.append_nil]
    exact ⟨_, outcomes, first, rfl, ⟨rfl, rfl⟩, forked, rfl⟩
  · obtain ⟨index, end_eq⟩ := List.mem_iff_getElem?.mp missing
    have inside : index < group.members.length := by
      have bounded := (List.getElem?_eq_some_iff.mp end_eq).1
      simpa [forked.length_eq] using bounded
    have endless := forked.behaves index (stopMember group.members[index]) none (by simp [inside]) end_eq
    obtain ⟨after?, stopped, unanswered⟩ := Program.admits_of_map endless
    rcases Sandbox.stop_cases stopped with ⟨_, _, rfl⟩ | ⟨_, _, rfl⟩ <;> cases unanswered

theorem memberPart_stop (patience : Nat) {group? : Option Group} (admitted : group.stop.Admits 0 events group?)
    (member_eq : group.members[index]? = some member) :
    ∃ after handle, group? = some after ∧ after.members[index]? = some handle ∧
      after.members.length = group.members.length ∧
      (Operation.stop.perform patience member).Admits (eventsOf (.task 0 index) events)
        (some (.ok (), handle)) := by
  obtain ⟨note, outcomes, own, rfl, ⟨grouped, _⟩, forked, rfl⟩ := admits_stop admitted
  have counted : outcomes.length = group.members.length := by simpa using forked.length_eq
  have inside : index < outcomes.length := by
    rw [counted]
    exact (List.getElem?_eq_some_iff.mp member_eq).1
  have behaved := forked.behaves index (stopMember member) (some outcomes[index])
    (by simp [member_eq]) (by simp [inside])
  obtain ⟨after?, stopped, outcome_eq⟩ := Program.admits_of_map behaved
  obtain ⟨handle, rfl, same⟩ := Option.map_eq_some_iff.mp outcome_eq.symm
  refine ⟨_, handle, rfl, by simp [inside, ← same], by simp [counted], ?_⟩
  have different : note.1 ≠ .task 0 index := by
    rw [grouped]
    nofun
  have skipped : eventsOf (.task 0 index) (note :: own) = eventsOf (.task 0 index) own :=
    eventsOf_cons_of_ne different note.2 own
  rw [skipped, same]
  exact behaved

/-! ## Any operation -/

theorem memberPart (valid : group.config.validate = .ok ()) {operation : GroupOperation}
    (admitted : (operation.perform patience group).Admits 0 events result?)
    (member_eq : group.members[index]? = some member) :
    ∃ deeds handle underway,
      MemberPart member (Event.contacts (eventsOf (operation.actorOf group index) events)) deeds handle
        underway ∧
      ∀ outcome after, result? = some (outcome, after) →
        underway = [] ∧ after.members[index]? = some handle := by
  cases operation with
  | start => exact memberPart_start valid admitted member_eq
  | stop =>
      obtain ⟨group?, stopped, rfl⟩ := GroupProgram.admits_of_map admitted
      obtain ⟨after, handle, rfl, handle_eq, _, behaved⟩ :=
        memberPart_stop patience stopped member_eq
      refine ⟨_, handle, [], .of_deed behaved, ?_⟩
      rintro outcome other ⟨⟩
      exact ⟨rfl, handle_eq⟩

/-- An operation changes neither the configuration of a group nor the number of its members. -/
theorem kept_of_admits (valid : group.config.validate = .ok ()) {operation : GroupOperation}
    {outcome : Except Error Unit} {after : Group}
    (admitted : (operation.perform patience group).Admits 0 events (some (outcome, after))) :
    after.config = group.config ∧ after.members.length = group.members.length := by
  cases operation with
  | start =>
      obtain ⟨_, account⟩ := startAccount_of_admits valid admitted
      obtain ⟨_, _, _, _, _, _, result_eq⟩ := course_of_start admitted
      obtain ⟨_, _, equal⟩ := Option.map_eq_some_iff.mp result_eq.symm
      refine ⟨?_, account.getElem?_members.1⟩
      cases equal
      rfl
  | stop =>
      obtain ⟨group?, stopped, result_eq⟩ := GroupProgram.admits_of_map admitted
      obtain ⟨_, outcomes, _, _, _, forked, rfl⟩ := admits_stop stopped
      have counted : outcomes.length = group.members.length := by simpa using forked.length_eq
      cases result_eq
      exact ⟨rfl, by simp [counted]⟩

end Group

/-! ## Whole histories -/

namespace GroupLifetime

variable {first last : Group} {history : List GroupDeed}

theorem kept (life : GroupLifetime first history last) (valid : first.config.validate = .ok ()) :
    last.config = first.config ∧ last.members.length = first.members.length := by
  induction life with
  | idle => exact ⟨rfl, rfl⟩
  | act admitted _ ih =>
      obtain ⟨config_eq, length_eq⟩ := Group.kept_of_admits valid admitted
      obtain ⟨config_eq', length_eq'⟩ := ih (config_eq ▸ valid)
      exact ⟨config_eq'.trans config_eq, length_eq'.trans length_eq⟩

/-- Seen from a member, the life of a group is the life of a handle that makes the same calls. -/
theorem member_lifetime (life : GroupLifetime first history last)
    (valid : first.config.validate = .ok ()) {index : Nat} {member : Sandbox}
    (member_eq : first.members[index]? = some member) :
    ∃ deeds handle, last.members[index]? = some handle ∧ Lifetime member deeds handle ∧
      history.flatMap (GroupDeed.callsOf index) = deeds.flatMap Deed.calls := by
  induction life generalizing member with
  | idle => exact ⟨[], member, member_eq, .idle member, rfl⟩
  | act admitted _ ih =>
      obtain ⟨deeds, between, underway, part, ends⟩ := Group.memberPart valid admitted member_eq
      obtain ⟨rfl, between_eq⟩ := ends _ _ rfl
      obtain ⟨config_eq, _⟩ := Group.kept_of_admits valid admitted
      obtain ⟨later, handle, handle_eq, lifetime, calls_eq⟩ := ih (config_eq ▸ valid) between_eq
      refine ⟨deeds ++ later, handle, handle_eq, part.lifetime.append lifetime, ?_⟩
      rw [List.flatMap_cons, List.flatMap_append, calls_eq, GroupDeed.callsOf, part.calls_eq,
        List.append_nil]

end GroupLifetime

end SandboxClient
