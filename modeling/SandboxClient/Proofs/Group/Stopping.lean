import SandboxClient.Proofs.Group.History

/-!
# Stopping a group

Stopping a group never fails, makes one call for each member that is alive and leaves none alive.  Each
member keeps the balance of stops and starts of a handle that stands alone, however often the group is
started and stopped and however its members interleave.
-/

namespace SandboxClient

/-- What becomes of the sandboxes of a group in the course of an operation that is asked of it. -/
structure GroupStopAccount (first : Group) (history : List GroupDeed) (group : Group)
    (operation : GroupOperation) (events : List GroupEvent)
    (result? : Option (Except Error Unit × Group)) : Prop where
  /-- The calls of a member so far are those of a handle in whose life stops and launches are paired. -/
  paired : ∀ (index : Nat) new, first.members[index]? = some new → ∃ deeds handle underway,
    Lifetime new deeds handle ∧ StopsPaired deeds handle underway ∧
    history.flatMap (GroupDeed.callsOf index) ++
        Event.contacts (eventsOf (operation.actorOf group index) events) =
      deeds.flatMap Deed.calls ++ underway ∧
    ∀ outcome after, result? = some (outcome, after) →
      underway = [] ∧ after.members[index]? = some handle
  /-- Stopping never fails, whatever the service answers, and leaves no member alive. -/
  stopped : operation = .stop →
    ∃ after, result? = some (.ok (), after) ∧ ∀ member ∈ after.members, member.state ≠ .alive
  /-- Stopping makes one call for each member that is alive and none for any other. -/
  stop_calls : operation = .stop → ∀ (index : Nat) member, group.members[index]? = some member →
    (Event.contacts (eventsOf (operation.actorOf group index) events)).map Contact.request =
      if member.state = .alive then [member.stopRequest] else []
  /-- Starting makes no call for a member that is alive. -/
  start_calls : operation = .start → ∀ (index : Nat) member, group.members[index]? = some member →
    member.state = .alive → Event.contacts (eventsOf (operation.actorOf group index) events) = []
  /-- Whatever happens is a log record of the group or done by a member. -/
  actors : ∀ entry ∈ events, (entry.1 = .group ∧ entry.2.action.isLog = true) ∨
    ∃ index, index < group.members.length ∧ entry.1 = operation.actorOf group index

namespace Group

variable {group : Group} {patience index : Nat} {member : Sandbox} {events : List GroupEvent}
  {result? : Option (Except Error Unit × Group)}

/-- The attempts at starting a member that is alive make no call. -/
theorem silent_of_course {count : Nat} {own : List Event} {outcome? : Option MemberOutcome}
    (alive : member.state = .alive)
    (course : Retry.Course (Sandbox.start patience) count member own outcome?) :
    Event.contacts own = [] := by
  cases course with
  | succeeded attempt => exact (Sandbox.start_of_alive alive attempt).1
  | failed attempt _ => cases (Sandbox.start_of_alive alive attempt).2
  | endless attempt => exact (Sandbox.start_of_alive alive attempt).1
  | again attempt _ _ => cases (Sandbox.start_of_alive alive attempt).2

theorem start_calls (valid : group.config.validate = .ok ())
    (admitted : (group.start patience).Admits 0 events result?)
    (member_eq : group.members[index]? = some member) (alive : member.state = .alive) :
    Event.contacts (eventsOf (group.actorOf index) events) = [] := by
  obtain ⟨ends, account⟩ := startAccount_of_admits valid admitted
  by_cases reached : index < ends.length
  · obtain ⟨_, _, course, _⟩ :=
      account.tried index member _ member_eq (List.getElem?_eq_getElem reached)
    exact silent_of_course alive course
  · rw [account.untouched index (by omega)]
    rfl

theorem actors_of_admits (valid : group.config.validate = .ok ()) {operation : GroupOperation}
    (admitted : (operation.perform patience group).Admits 0 events result?) :
    ∀ entry ∈ events, (entry.1 = .group ∧ entry.2.action.isLog = true) ∨
      ∃ index, index < group.members.length ∧ entry.1 = operation.actorOf group index := by
  intro entry included
  cases operation with
  | start =>
      obtain ⟨ends, account⟩ := startAccount_of_admits valid admitted
      rcases account.actors entry included with noted | ⟨index, inside, actor_eq⟩
      · exact .inl noted
      · exact .inr ⟨index, Nat.lt_of_lt_of_le inside account.length_le, actor_eq⟩
  | stop =>
      obtain ⟨_, stopped, _⟩ := GroupProgram.admits_of_map admitted
      obtain ⟨note, outcomes, own, rfl, noted, forked, _⟩ := admits_stop stopped
      rcases List.mem_cons.mp included with rfl | acted
      · exact .inl noted
      · obtain ⟨index, inside, actor_eq⟩ := forked.actors entry acted
        exact .inr ⟨index, by simpa using inside, actor_eq⟩

end Group

/-! ## Whole histories -/

namespace GroupLifetime

variable {first group : Group} {history : List GroupDeed} {patience : Nat} {operation : GroupOperation}
  {events : List GroupEvent} {result? : Option (Except Error Unit × Group)}

/-- Every member of a group agrees with a history of its own. -/
theorem sound_member (life : GroupLifetime first history group)
    (valid : first.config.validate = .ok ()) (new : ∀ member ∈ first.members, Sound [] member)
    {index : Nat} {member : Sandbox} (member_eq : group.members[index]? = some member) :
    ∃ deeds, Sound deeds member := by
  have inside : index < first.members.length := by
    rw [← (life.kept valid).2]
    exact (List.getElem?_eq_some_iff.mp member_eq).1
  obtain ⟨deeds, handle, handle_eq, lifetime, _⟩ :=
    life.member_lifetime valid (List.getElem?_eq_getElem inside)
  obtain rfl : member = handle := by
    rw [member_eq] at handle_eq
    exact Option.some.inj handle_eq
  exact ⟨deeds, (new _ (List.getElem_mem inside)).lifetime lifetime⟩

theorem stopAccount (life : GroupLifetime first history group)
    (valid : first.config.validate = .ok ())
    (new : ∀ member ∈ first.members, Sound [] member ∧ member.state ≠ .alive)
    (admitted : (operation.perform patience group).Admits 0 events result?) :
    GroupStopAccount first history group operation events result? := by
  have still : group.config.validate = .ok () := (life.kept valid).1 ▸ valid
  have sound : ∀ {index : Nat} {member}, group.members[index]? = some member →
      ∃ deeds, Sound deeds member := life.sound_member valid fun member included => (new member included).1
  constructor
  · intro index first member_eq
    obtain ⟨unmarked, idle⟩ := new first (List.mem_of_getElem? member_eq)
    obtain ⟨deeds, member, here, lifetime, calls_eq⟩ := life.member_lifetime valid member_eq
    obtain ⟨further, handle, underway, part, ends⟩ := Group.memberPart still admitted here
    have whole := lifetime.append part.lifetime
    refine ⟨deeds ++ further, handle, underway, whole, ?_, ?_, ends⟩
    · exact whole.stopsPaired unmarked idle (by simp [part.unstopping])
    · rw [calls_eq, part.calls_eq, List.flatMap_append, List.append_assoc]
  · rintro rfl
    obtain ⟨_, stopped, rfl⟩ := GroupProgram.admits_of_map admitted
    obtain ⟨_, outcomes, _, _, _, forked, rfl⟩ := Group.admits_stop stopped
    refine ⟨_, rfl, ?_⟩
    intro handle included
    obtain ⟨index, handle_eq⟩ := List.mem_iff_getElem?.mp included
    have inside : index < group.members.length := by
      have bounded := (List.getElem?_eq_some_iff.mp handle_eq).1
      have counted : outcomes.length = group.members.length := by simpa using forked.length_eq
      simpa [counted] using bounded
    have member_eq := List.getElem?_eq_getElem inside
    obtain ⟨_, other, same, other_eq, _, behaved⟩ :=
      Group.memberPart_stop patience stopped member_eq
    cases same
    obtain rfl : handle = other := by
      rw [handle_eq] at other_eq
      exact Option.some.inj other_eq
    obtain ⟨deeds, unbroken⟩ := sound member_eq
    obtain ⟨⟨_, result_eq, spent⟩, _⟩ := unbroken.stop_spent rfl behaved
    cases result_eq
    exact spent
  · rintro rfl index member member_eq
    obtain ⟨_, stopped, _⟩ := GroupProgram.admits_of_map admitted
    obtain ⟨_, _, _, _, _, behaved⟩ := Group.memberPart_stop patience stopped member_eq
    obtain ⟨deeds, unbroken⟩ := sound member_eq
    exact (unbroken.stop_spent rfl behaved).2
  · rintro rfl index member member_eq alive
    exact Group.start_calls still admitted member_eq alive
  · exact Group.actors_of_admits still admitted

end GroupLifetime

/-- Whatever was asked of a handle or of a group so far, whatever the world answered and however the
members of the group interleaved: the next operation keeps the calls to stop within the launches.  It is
performed in a world of its own, and it need not come back. -/
theorem stops_paid_by_launches {State Other GroupState GroupOther : Type}
    (config : SandboxConfig) (freshKey logger : Bytes) (world : World State) (patience : Nat)
    (operations : List Operation) (state : State) (count : Nat) (next : Operation)
    (other : World Other) (rounds : Nat) (now : Other)
    {groupConfig : GroupConfig} {groupKey : Nat → Bytes} {groupLog : Bytes} {first : Group}
    {making : List Event}
    (made : (Group.create groupConfig groupKey groupLog).Admits making (some (.ok first)))
    (groupWorld : GroupWorld GroupState) (requests : List (GroupOperation × (Nat → List Nat)))
    (groupState : GroupState) (groupNext : GroupOperation) (groupOther : GroupWorld GroupOther)
    (schedules : Nat → List Nat) (groupNow : GroupOther) :
    (let sandbox := Sandbox.create config freshKey logger
      let deeds := (Sandbox.serve world patience operations sandbox state).take count
      let handle := Deed.handleAfter sandbox deeds
      let run := (next.perform rounds handle).run other now
      StopAccount deeds handle next run.events run.result?) ∧
    (let history := (Group.serve groupWorld patience requests first groupState).take count
      let group := GroupDeed.groupAfter first history
      let run := (groupNext.perform rounds group).runFrom groupOther schedules 0 groupNow
      GroupStopAccount first history group groupNext run.events run.result?) := by
  constructor
  · intro sandbox deeds handle run
    have life : Lifetime sandbox deeds handle :=
      lifetime_serve world patience operations sandbox state count
    exact life.stopAccount (Sound.of_create config freshKey logger) (by simp [sandbox, Sandbox.create])
      (Program.admits_run other _ now)
  · intro history group run
    have life : GroupLifetime first history group :=
      groupLifetime_serve groupWorld patience requests first groupState count
    obtain ⟨valid, _⟩ := Group.length_members_of_create made
    refine life.stopAccount valid ?_ (GroupProgram.admits_runFrom groupOther schedules 0 _ groupNow)
    intro member included
    obtain ⟨key, rfl⟩ := Group.new_of_create made member included
    exact ⟨Sound.of_create _ key _, by simp [Sandbox.create]⟩

/-- A handle that is started and stopped twice, and a group of two members that is started and stopped
and then started again. -/
theorem stops_paid_by_launches_rehearsed :
    let template : SandboxConfig := { cpus := .finite false 1 0 }
    let config : GroupConfig := { sandbox := template }
    let member : Sandbox := { config := template, routeKey := [] }
    let first : Group := { config, members := [member, member] }
    let granted := Rehearsal.success [(utf8 "sandbox_id", .string (utf8 "sb-1"))]
    let alive := Rehearsal.success [(utf8 "is_alive", .boolean true)]
    let world := Rehearsal.timetable granted fun _ => alive
    let groupWorld : GroupWorld Int := ⟨fun _ => world.answer⟩
    let making := (Group.create config fun _ => []).run world 0
    let deeds := (Sandbox.serve world 2 [.start, .stop] member 0).take 2
    let handle := Deed.handleAfter member deeds
    let run := (Operation.close.perform 2 handle).run world 0
    let history := (Group.serve groupWorld 2 [(.start, fun _ => [1, 0]), (.stop, fun _ => [])] first 0).take 2
    let group := GroupDeed.groupAfter first history
    let groupRun := (GroupOperation.start.perform 2 group).runFrom groupWorld (fun _ => []) 0 0
    making.result? = some (.ok first) ∧
      deeds.map (fun deed => deed.after.state) = [.alive, .stopped] ∧
      history.map (fun deed => deed.after.members.map Sandbox.state) =
        [[.alive, .alive], [.stopped, .stopped]] ∧
      StopAccount deeds handle .close run.events run.result? ∧
      GroupStopAccount first history group .start groupRun.events groupRun.result? := by
  intro template config member first granted alive world groupWorld making deeds handle run history group
    groupRun
  have made : making.result? = some (.ok first) := by rfl
  have admitted := Program.admits_run world (Group.create config fun _ => []) 0
  rw [made] at admitted
  exact ⟨made, by decide +kernel, by decide +kernel,
    stops_paid_by_launches template [] sandboxLogger world 2 [.start, .stop] 0 2 .close world 2 0 admitted
      groupWorld [(.start, fun _ => [1, 0]), (.stop, fun _ => [])] 0 .start groupWorld (fun _ => []) 0⟩

end SandboxClient
