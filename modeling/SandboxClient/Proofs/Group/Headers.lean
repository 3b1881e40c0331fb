import SandboxClient.Proofs.Group.Stopping
import SandboxClient.Proofs.Lifetime.Client
import SandboxClient.Proofs.Lifetime.Headers

/-!
# Headers of a group

The members of a group whose template sets the routing key have the same headers, and they keep them
whatever is asked of the group or of one of them.  So every call that any of them makes carries the same
headers, and the calls of a single handle do so with any configuration.
-/

namespace SandboxClient

/-- The attempts at starting a handle carry the headers that it had first. -/
theorem Retry.Course.headers_of_calls {patience count : Nat} {handle : Sandbox} {events : List Event}
    {outcome? : Option MemberOutcome}
    (course : Retry.Course (Sandbox.start patience) count handle events outcome?) :
    ∀ call ∈ Event.contacts events, call.request.headers = handle.headers := by
  have starting : ∀ {state own result?}, (Operation.start.perform patience state).Admits own result? →
      ∀ call ∈ Event.contacts own, call.request.headers = state.headers := Operation.headers_of_admits
  induction course with
  | succeeded attempt => exact starting attempt
  | failed attempt silent =>
      rw [Event.contacts_append, silent, List.append_nil]
      exact starting attempt
  | endless attempt => exact starting attempt
  | @again count state between own pause later error outcome? attempt silent _ ih =>
      have started : (Operation.start.perform patience state).Admits own (some (.error error, between)) :=
        attempt
      have kept : between.headers = state.headers := Operation.headers_eq started
      rw [Event.contacts_append, Event.contacts_append, silent, List.append_nil]
      refine List.forall_mem_append.mpr ⟨starting attempt, ?_⟩
      intro call member
      exact (ih call member).trans kept

/-- A group that was made, and whose members have the same headers. -/
structure Group.Shares (group : Group) (headers : Dictionary Bytes) : Prop where
  valid : group.config.validate = .ok ()
  members : ∀ member ∈ group.members, member.headers = headers

/-- What is asked for among events is asked for with the same headers. -/
def GroupEvent.Carry (headers : Dictionary Bytes) (events : List GroupEvent) : Prop :=
  ∀ entry ∈ events, ∀ request, entry.2.action = .request request → request.headers = headers

namespace Group.Shares

variable {group after : Group} {headers : Dictionary Bytes} {patience : Nat}
  {operation : GroupOperation} {events : List GroupEvent}

/-! ## Starting and stopping -/

theorem carry_start {result? : Option (Except Error Unit × Group)} (shares : group.Shares headers)
    (admitted : (group.start patience).Admits 0 events result?) : GroupEvent.Carry headers events := by
  obtain ⟨ends, account⟩ := startAccount_of_admits shares.valid admitted
  intro entry member request requests
  rcases account.actors entry member with ⟨_, noted⟩ | ⟨index, reached, actor_eq⟩
  · rw [requests] at noted
    cases noted
  · have inside : index < group.members.length := Nat.lt_of_lt_of_le reached account.length_le
    obtain ⟨_, _, course, _⟩ := account.tried index _ _ (List.getElem?_eq_getElem inside)
      (List.getElem?_eq_getElem reached)
    have own := mem_eventsOf_of_mem member
    rw [actor_eq] at own
    obtain ⟨call, among, rfl⟩ := Event.exists_contact own requests
    exact (course.headers_of_calls call among).trans (shares.members _ (List.getElem_mem inside))

theorem carry_stop {result? : Option Group} (shares : group.Shares headers)
    (admitted : group.stop.Admits 0 events result?) : GroupEvent.Carry headers events := by
  have confined : group.stop.Confined (Action.Within fun request => request.headers = headers) :=
    Group.confined_stop shares.members
  intro entry member request requests
  have within := confined.allowed_of_admits admitted entry member
  rwa [requests] at within

/-- Starting and stopping a group carries the headers that its members share, whatever the answers and
however they interleave. -/
theorem carry_perform {result? : Option (Except Error Unit × Group)} (shares : group.Shares headers)
    (admitted : (operation.perform patience group).Admits 0 events result?) :
    GroupEvent.Carry headers events := by
  cases operation with
  | start => exact shares.carry_start admitted
  | stop =>
      obtain ⟨_, stopped, _⟩ := GroupProgram.admits_of_map admitted
      exact shares.carry_stop stopped

/-- A start or a stop that comes back leaves the members their headers. -/
theorem after_perform {outcome : Except Error Unit} (shares : group.Shares headers)
    (admitted : (operation.perform patience group).Admits 0 events (some (outcome, after))) :
    after.Shares headers := by
  obtain ⟨config_eq, length_eq⟩ := Group.kept_of_admits shares.valid admitted
  refine ⟨config_eq ▸ shares.valid, fun handle included => ?_⟩
  obtain ⟨index, handle_eq⟩ := List.mem_iff_getElem?.mp included
  have inside : index < group.members.length := by
    rw [← length_eq]
    exact (List.getElem?_eq_some_iff.mp handle_eq).1
  obtain ⟨deeds, other, underway, part, ends⟩ :=
    Group.memberPart shares.valid admitted (List.getElem?_eq_getElem inside)
  obtain ⟨_, other_eq⟩ := ends outcome after rfl
  obtain rfl : handle = other := by
    rw [handle_eq] at other_eq
    exact Option.some.inj other_eq
  exact part.lifetime.headers_eq.trans (shares.members _ (List.getElem_mem inside))

/-- An operation on one member that comes back leaves all members their headers. -/
theorem set_member {handle : Sandbox} (shares : group.Shares headers) (kept : handle.headers = headers)
    (index : Nat) : Group.Shares { group with members := group.members.set index handle } headers := by
  refine ⟨shares.valid, fun member included => ?_⟩
  rcases List.mem_or_eq_of_mem_set included with among | rfl
  · exact shares.members member among
  · exact kept

end Group.Shares

/-! ## Calls of a group and its members -/

/-- What can be asked of a group: to start or to stop all members, which act in the order of the
schedules, or an operation on one member. -/
inductive GroupCall where
  | all (operation : GroupOperation) (schedules : Nat → List Nat)
  | one (index : Nat) (operation : Operation)

namespace GroupCall

variable {State : Type}

/-- The run of a call, with the group that it leaves if it comes back.  An index that no member has is
refused. -/
def run (world : GroupWorld State) (patience : Nat) (call : GroupCall) (group : Group) (state : State) :
    GroupRun Group State :=
  match call with
  | .all operation schedules =>
    let run := (operation.perform patience group).runFrom world schedules 0 state
    ⟨run.result?.map Prod.snd, run.events, run.state⟩
  | .one index operation =>
    match group.members[index]? with
    | none => ⟨some group, [], state⟩
    | some member =>
      let run := (operation.perform patience member).run (world.seenBy .group) state
      ⟨run.result?.map fun result => { group with members := group.members.set index result.2 },
        run.events.map fun event => (.group, event), run.state⟩

/-- The runs of calls one after the other, up to the first that does not come back. -/
def runAll (world : GroupWorld State) (patience : Nat) :
    List GroupCall → Group → State → GroupRun Group State
  | [], group, state => ⟨some group, [], state⟩
  | call :: calls, group, state =>
    (call.run world patience group state).andThen (runAll world patience calls)

variable {group : Group} {headers : Dictionary Bytes}

theorem shares_of_run (shares : group.Shares headers) (world : GroupWorld State) (patience : Nat)
    (call : GroupCall) (state : State) :
    let run := call.run world patience group state
    GroupEvent.Carry headers run.events ∧ ∀ after, run.result? = some after → after.Shares headers := by
  cases call with
  | all operation schedules =>
      have admitted := GroupProgram.admits_runFrom world schedules 0 (operation.perform patience group)
        state
      refine ⟨shares.carry_perform admitted, fun after came => ?_⟩
      obtain ⟨⟨outcome, left⟩, result_eq, rfl⟩ := Option.map_eq_some_iff.mp came
      rw [result_eq] at admitted
      exact shares.after_perform admitted
  | one index operation =>
      simp only [run]
      split
      next =>
        refine ⟨by simp [GroupEvent.Carry], ?_⟩
        rintro after ⟨⟩
        exact shares
      next member member_eq =>
        have admitted := Program.admits_run (world.seenBy .group) (operation.perform patience member)
          state
        have own := shares.members member (List.mem_of_getElem? member_eq)
        constructor
        · intro entry included request requests
          obtain ⟨event, among, rfl⟩ := List.mem_map.mp included
          obtain ⟨call, called, rfl⟩ := Event.exists_contact among requests
          exact (Operation.headers_of_admits admitted call called).trans own
        · intro after came
          obtain ⟨⟨outcome, handle⟩, result_eq, rfl⟩ := Option.map_eq_some_iff.mp came
          rw [result_eq] at admitted
          exact shares.set_member ((Operation.headers_eq admitted).trans own) index

theorem carry_runAll (shares : group.Shares headers) (world : GroupWorld State) (patience : Nat)
    (calls : List GroupCall) (state : State) :
    GroupEvent.Carry headers (runAll world patience calls group state).events := by
  induction calls generalizing group state with
  | nil => simp [runAll, GroupEvent.Carry]
  | cons call calls ih =>
      obtain ⟨carried, left⟩ := shares_of_run shares world patience call state
      rw [runAll, GroupRun.andThen]
      split
      next => exact carried
      next after came => exact List.forall_mem_append.mpr ⟨carried, ih (left after came) _⟩

end GroupCall

/-- The members of a group that was made from a template with a routing key share its headers. -/
theorem Group.shares_of_create {config : GroupConfig} {freshKey : Nat → Bytes} {logger key : Bytes}
    {making : List Event} {group : Group}
    (made : (Group.create config freshKey logger).Admits making (some (.ok group)))
    (fixed : config.sandbox.routeKey? = some key) : group.Shares (config.sandbox.headers key) := by
  refine ⟨(Group.length_members_of_create made).1, fun member included => ?_⟩
  obtain ⟨fresh, rfl⟩ := Group.new_of_create made member included
  rw [Sandbox.headers, Sandbox.create, fixed]
  rfl

/-- Whatever is asked of a handle and whatever the world answers, there is one map of headers, made of the
layers of its configuration, that all its requests carry.  The next operation is performed in a world of its
own, and it need not come back.  A group whose template sets the routing key has one such map for all its
members, whatever is asked of the group and of its members in turn. -/
theorem requests_carry_layered_headers {State Other GroupState : Type} (config : SandboxConfig)
    (freshKey logger : Bytes) (world : World State) (patience : Nat) (operations : List Operation)
    (state : State) (count : Nat) (next : Operation) (other : World Other) (rounds : Nat) (now : Other)
    {groupConfig : GroupConfig} {groupKey : Nat → Bytes} {groupLog key : Bytes} {first : Group}
    {making : List Event}
    (made : (Group.create groupConfig groupKey groupLog).Admits making (some (.ok first)))
    (fixed : groupConfig.sandbox.routeKey? = some key) (groupWorld : GroupWorld GroupState)
    (calls : List GroupCall) (groupState : GroupState) :
    (let sandbox := Sandbox.create config freshKey logger
      let deeds := (Sandbox.serve world patience operations sandbox state).take count
      let run := (next.perform rounds (Deed.handleAfter sandbox deeds)).run other now
      ∃ headers, config.Layered (config.routeKey?.getD freshKey) headers ∧
        (∀ deed ∈ deeds, ∀ call ∈ deed.calls, call.request.headers = headers) ∧
        ∀ call ∈ Event.contacts run.events, call.request.headers = headers) ∧
    ∃ headers, groupConfig.sandbox.Layered key headers ∧
      GroupEvent.Carry headers (GroupCall.runAll groupWorld patience calls first groupState).events := by
  constructor
  · intro sandbox deeds run
    have life : Lifetime sandbox deeds (Deed.handleAfter sandbox deeds) :=
      lifetime_serve world patience operations sandbox state count
    refine ⟨sandbox.headers, config.layered_headers _, life.headers_of_calls, ?_⟩
    intro call member
    have admitted := Program.admits_run other (next.perform rounds (Deed.handleAfter sandbox deeds)) now
    exact (Operation.headers_of_admits admitted call member).trans life.headers_eq
  · have shares := Group.shares_of_create made fixed
    exact ⟨_, groupConfig.sandbox.layered_headers key,
      GroupCall.carry_runAll shares groupWorld patience calls groupState⟩

/-- A handle that is started, stopped and started again before it runs a command, with extra headers that
name a routing key and a user, and a group of two that are started before one of them is asked for its
status. -/
theorem requests_carry_layered_headers_rehearsed :
    let config : SandboxConfig := {
      cpus := .finite false 1 0
      extraHeaders := [(utf8 "ROUTE-KEY", utf8 "north"), (utf8 "X-User-Id", utf8 "nobody")]
      userId := utf8 "alice" }
    let headers : Dictionary Bytes := [(utf8 "ROUTE-KEY", utf8 "north"), (utf8 "X-Cluster", utf8 "zb"),
      (utf8 "X-User-Id", utf8 "alice")]
    let template : SandboxConfig := { cpus := .finite false 1 0, routeKey? := some (utf8 "south") }
    let shared : Dictionary Bytes := [(utf8 "ROUTE-KEY", utf8 "south"), (utf8 "X-Cluster", utf8 "zb")]
    let granted := Rehearsal.success [(utf8 "sandbox_id", .string (utf8 "sb-1"))]
    let world := Rehearsal.timetable granted fun _ => Rehearsal.success []
    let groupWorld : GroupWorld Int := ⟨fun _ => world.answer⟩
    let sandbox := Sandbox.create config (utf8 "drawn")
    let deeds := (Sandbox.serve world 2 [.start, .stop, .start] sandbox 0).take 3
    let run := ((Operation.run (utf8 "make") {}).perform 2 (Deed.handleAfter sandbox deeds)).run world 0
    let making := (Group.create { sandbox := template } fun _ => utf8 "drawn").run world 0
    let member := Sandbox.create template (utf8 "drawn")
    let first : Group := { config := { sandbox := template }, members := [member, member] }
    let calls : List GroupCall := [.all .start fun _ => [1, 0], .one 1 .status]
    let among := (GroupCall.runAll groupWorld 2 calls first 0).events
    making.result? = some (.ok first) ∧
      (deeds.flatMap Deed.calls ++ Event.contacts run.events).length = 7 ∧
      config.Layered (utf8 "drawn") headers ∧
      (∀ deed ∈ deeds, ∀ call ∈ deed.calls, call.request.headers = headers) ∧
      (∀ call ∈ Event.contacts run.events, call.request.headers = headers) ∧
      (Event.contacts (among.map Prod.snd)).length = 5 ∧
      template.Layered (utf8 "south") shared ∧ GroupEvent.Carry shared among := by
  intro config headers template shared granted world groupWorld sandbox deeds run making member first calls
    among
  have made : making.result? = some (.ok first) := by rfl
  have admitted := Program.admits_run world
    (Group.create { sandbox := template } fun _ => utf8 "drawn") 0
  rw [made] at admitted
  have own : config.Layered (utf8 "drawn") headers := by
    have headers_eq : config.headers (utf8 "drawn") = headers := by decide +kernel
    exact headers_eq ▸ config.layered_headers _
  have common : template.Layered (utf8 "south") shared := by
    have shared_eq : template.headers (utf8 "south") = shared := by decide +kernel
    exact shared_eq ▸ template.layered_headers _
  obtain ⟨⟨found, layered, served, ran⟩, foundCommon, layeredCommon, carried⟩ :=
    requests_carry_layered_headers config (utf8 "drawn") sandboxLogger world 2 [.start, .stop, .start] 0 3
      (.run (utf8 "make") {}) world 2 0 admitted rfl groupWorld calls 0
  obtain rfl : found = headers := layered.unique own
  obtain rfl : foundCommon = shared := layeredCommon.unique common
  exact ⟨made, by decide +kernel, own, served, ran, by decide +kernel, common, carried⟩

end SandboxClient
