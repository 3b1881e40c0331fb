import SandboxClient.Proofs.Group.Course
import SandboxClient.Proofs.Retry.Attempts
import SandboxClient.Proofs.Sandbox.Lifecycle
import SandboxClient.Proofs.Program.Rehearsal

/-!
# Starting a group

What the start of a group does to its members, however the starts of one batch interleave: the members
of a batch are tried, each under the retry policy, once all members of the batches before are alive, and
the first batch with a failure is the last.
-/

namespace SandboxClient

namespace Group

variable {group : Group} {patience : Nat} {events : List GroupEvent}
  {ends : List (Option MemberOutcome)}

/-- A group that was made has a valid configuration and as many members as it asks for. -/
theorem length_members_of_create {config : GroupConfig} {freshKey : Nat → Bytes} {logger : Bytes}
    {own : List Event}
    (admitted : (create config freshKey logger).Admits own (some (.ok group))) :
    group.config.validate = .ok () ∧ group.members.length = group.config.size.toNat := by
  rw [create] at admitted
  split at admitted
  next error refused =>
    obtain ⟨_, impossible⟩ := Program.admits_done_iff.mp admitted
    cases impossible
  next valid =>
    obtain ⟨_, _, rfl, ended⟩ := Program.admits_act_iff.mp admitted
    obtain ⟨_, equal⟩ := Program.admits_done_iff.mp ended
    cases equal
    exact ⟨valid, by simp⟩

/-- The members of a group that was made are new handles. -/
theorem new_of_create {config : GroupConfig} {freshKey : Nat → Bytes} {logger : Bytes}
    {own : List Event} (admitted : (create config freshKey logger).Admits own (some (.ok group))) :
    ∀ member ∈ group.members, ∃ key, member = Sandbox.create config.sandbox key := by
  rw [create] at admitted
  split at admitted
  next error refused =>
    obtain ⟨_, impossible⟩ := Program.admits_done_iff.mp admitted
    cases impossible
  next valid =>
    obtain ⟨_, _, rfl, ended⟩ := Program.admits_act_iff.mp admitted
    obtain ⟨_, equal⟩ := Program.admits_done_iff.mp ended
    cases equal
    intro member included
    obtain ⟨index, _, rfl⟩ := List.mem_map.mp included
    exact ⟨freshKey index, rfl⟩

/-- The number of members in a batch. -/
def breadth (group : Group) : Nat :=
  group.config.startConcurrency.toNat

/-- The task that a member acts as. -/
def actorOf (group : Group) (index : Nat) : Actor :=
  .task (index / group.breadth) (index % group.breadth)

/-- The number of members up to the end of the batch of a member. -/
def batchEnd (group : Group) (index : Nat) : Nat :=
  min group.members.length ((index / group.breadth + 1) * group.breadth)

/-- What became of the start of a group: how the members of the batches that were reached ended, and the
result.  A member whose start never returns has no end. -/
structure StartAccount (patience : Nat) (group : Group) (events : List GroupEvent)
    (ends : List (Option MemberOutcome)) (result? : Option (Except Error Unit × Group)) : Prop where
  /-- Each member that was reached is tried until it first starts, as often as the configuration allows
  and no less often if it fails. -/
  tried : ∀ index member outcome?, group.members[index]? = some member → ends[index]? = some outcome? →
    ∃ count : Nat, count ≤ group.config.startRetryTimes ∧
      Retry.Course (Sandbox.start patience) count member (eventsOf (group.actorOf index) events)
        outcome? ∧
      ∀ error after, outcome? = some (.error error, after) → count = group.config.startRetryTimes
  alive : ∀ (index : Nat) after, ends[index]? = some (some (.ok (), after)) → after.state = .alive
  /-- When a member acts, the members of all earlier batches are alive and do nothing more. -/
  ordered : ∀ before entry after index earlier, events = before ++ entry :: after →
    entry.1 = group.actorOf index → earlier / group.breadth < index / group.breadth →
      eventsOf (group.actorOf earlier) after = [] ∧
        ∃ handle, ends[earlier]? = some (some (.ok (), handle)) ∧ handle.state = .alive
  /-- Whatever happens is a log record of the group or done by a member that was reached. -/
  actors : ∀ entry ∈ events, (entry.1 = .group ∧ entry.2.action.isLog = true) ∨
    ∃ index, index < ends.length ∧ entry.1 = group.actorOf index
  untouched : ∀ index, ends.length ≤ index → eventsOf (group.actorOf index) events = []
  endless : result? = none → ∃ index, ends[index]? = some none ∧ ends.length = group.batchEnd index
  succeeded : ∀ after, result? = some (.ok (), after) →
    ends.length = group.members.length ∧
      ends = after.members.map fun handle => some (.ok (), handle)
  /-- The error is that of the first member that failed.  All members of its batch came to an end, and
  those of later batches are as they were. -/
  failed : ∀ error after, result? = some (.error error, after) →
    ∃ (outcomes : List MemberOutcome) (index : Nat) (handle : Sandbox),
      ends = outcomes.map some ∧ outcomes.length = group.batchEnd index ∧
      outcomes[index]? = some (.error error, handle) ∧
      (∀ earlier < index, ∃ handle, outcomes[earlier]? = some (.ok (), handle)) ∧
      after.members = outcomes.map Prod.snd ++ group.members.drop outcomes.length

theorem bounds_of_validate {config : GroupConfig} (valid : config.validate = .ok ()) :
    1 ≤ config.startConcurrency ∧ 1 ≤ config.startRetryTimes := by
  rw [GroupConfig.validate] at valid
  cases template : config.sandbox.validate with
  | error error =>
      rw [template] at valid
      cases valid
  | ok _ =>
      by_cases narrow : config.startConcurrency < 1
      · rw [template] at valid
        simp only [bind, Except.bind, narrow, if_true] at valid
        split at valid <;> cases valid
      · by_cases few : config.startRetryTimes < 1
        · rw [template] at valid
          simp only [bind, Except.bind, narrow, few, if_true, if_false] at valid
          split at valid <;> cases valid
        · omega

theorem startPolicy_valid {config : GroupConfig} (tries : 1 ≤ config.startRetryTimes) :
    (startPolicy config).validate = .ok () := by
  have positive : (0 : Float) < 1 := by decide
  have enough : ¬ config.startRetryTimes < 1 := by omega
  simp [Backoff.validate, startPolicy, enough, positive]

def startRecord (group : Group) : Log.Record where
  logger := group.logger
  level := .info
  message := utf8 "Starting " ++ Text.decimal group.members.length ++
    utf8 " sandboxes with concurrency " ++ Text.integer group.config.startConcurrency

theorem course_of_startMember (tries : 1 ≤ group.config.startRetryTimes) {member : Sandbox}
    {own : List Event} {outcome? : Option MemberOutcome}
    (admitted : (startMember patience group member).Admits own outcome?) :
    ∃ count : Nat, count ≤ group.config.startRetryTimes ∧
      Retry.Course (Sandbox.start patience) count member own outcome? ∧
      ∀ error after, outcome? = some (.error error, after) → count = group.config.startRetryTimes :=
  Retry.course_of_retry (startPolicy_valid tries) admitted

theorem breadth_eq (wide : 1 ≤ group.config.startConcurrency) :
    group.breadth = (group.config.startConcurrency - 1).toNat + 1 := by
  rw [breadth]
  omega

theorem actorOf_eq (wide : 1 ≤ group.config.startConcurrency) (index : Nat) :
    group.actorOf index = actorAt (group.config.startConcurrency - 1).toNat 0 index := by
  rw [actorOf, actorAt, breadth_eq wide, Nat.zero_add]

theorem batchEnd_eq (wide : 1 ≤ group.config.startConcurrency) (index : Nat) :
    group.batchEnd index =
      Course.reach (group.config.startConcurrency - 1).toNat group.members.length index := by
  rw [batchEnd, Course.reach, breadth_eq wide]

theorem startAccount_of_course (valid : group.config.validate = .ok ()) {entry : GroupEvent}
    (noted : entry.1 = .group ∧ entry.2.action.isLog = true)
    {result? : Option (Except Error Unit × List Sandbox)}
    (course : Course (startMember patience group) (group.config.startConcurrency - 1).toNat 0
      group.members events ends result?) :
    StartAccount patience group (entry :: events) ends
      (result?.map fun result => (result.1, { group with members := result.2 })) := by
  obtain ⟨wide, tries⟩ := bounds_of_validate valid
  have skipped : ∀ index, eventsOf (group.actorOf index) (entry :: events) =
      eventsOf (group.actorOf index) events := by
    intro index
    have different : entry.1 ≠ group.actorOf index := by
      rw [noted.1]
      simp [actorOf]
    exact eventsOf_cons_of_ne different entry.2 events
  have tried : ∀ (index : Nat) member outcome?, group.members[index]? = some member →
      ends[index]? = some outcome? →
      ∃ count : Nat, count ≤ group.config.startRetryTimes ∧
        Retry.Course (Sandbox.start patience) count member (eventsOf (group.actorOf index) events)
          outcome? ∧
        ∀ error after, outcome? = some (.error error, after) →
          count = group.config.startRetryTimes := by
    intro index member outcome? member_eq end_eq
    rw [actorOf_eq wide]
    exact course_of_startMember tries (course.behaves index member outcome? member_eq end_eq)
  have alive : ∀ (index : Nat) after, ends[index]? = some (some (.ok (), after)) →
      after.state = .alive := by
    intro index after end_eq
    have inside : index < group.members.length :=
      Nat.lt_of_lt_of_le (List.getElem?_eq_some_iff.mp end_eq).1 course.length_le
    obtain ⟨count, _, attempts, _⟩ :=
      tried index _ _ (List.getElem?_eq_getElem inside) end_eq
    obtain ⟨_, _, attempt⟩ := attempts.attempt_of_ok
    exact Sandbox.alive_of_start attempt
  refine {
    tried := by simpa only [skipped] using tried
    alive
    ordered := ?_
    actors := ?_
    untouched := ?_
    endless := ?_
    succeeded := ?_
    failed := ?_ }
  · intro before other after index earlier split_eq actor_eq batch_lt
    cases before with
    | nil =>
        obtain ⟨rfl, _⟩ := List.cons.inj split_eq
        rw [noted.1] at actor_eq
        cases actor_eq
    | cons _ before =>
        obtain ⟨_, events_eq⟩ := List.cons.inj split_eq
        rw [actorOf_eq wide] at actor_eq
        rw [breadth_eq wide] at batch_lt
        obtain ⟨silent, handle, end_eq⟩ := course.ordered events_eq actor_eq batch_lt
        rw [actorOf_eq wide]
        exact ⟨silent, handle, end_eq, alive earlier handle end_eq⟩
  · intro other member
    rcases List.mem_cons.mp member with rfl | later
    · exact .inl noted
    · simpa only [actorOf_eq wide] using course.actors other later
  · intro index beyond
    rw [skipped, actorOf_eq wide]
    exact course.untouched beyond
  · intro result_eq
    obtain rfl := Option.map_eq_none_iff.mp result_eq
    simpa only [batchEnd_eq wide] using course.endless
  · intro after result_eq
    obtain ⟨⟨outcome, handles⟩, rfl, equal⟩ := Option.map_eq_some_iff.mp result_eq
    cases equal
    exact course.succeeded.symm
  · intro error after result_eq
    obtain ⟨⟨outcome, handles⟩, rfl, equal⟩ := Option.map_eq_some_iff.mp result_eq
    cases equal
    obtain ⟨outcomes, index, handle, ends_eq, after_eq, error_eq, before, length_eq⟩ :=
      course.failed_first
    rw [← batchEnd_eq wide] at length_eq
    exact ⟨outcomes, index, handle, ends_eq, length_eq, error_eq, before, after_eq⟩

theorem course_of_start {fork : Nat} {result? : Option (Except Error Unit × Group)}
    (admitted : (group.start patience).Admits fork events result?) :
    ∃ answer rest ends inner?, events = (.group, ⟨.log (startRecord group), answer⟩) :: rest ∧
      Course (startMember patience group) (group.config.startConcurrency - 1).toNat fork group.members
        rest ends inner? ∧
      result? = inner?.map fun result => (result.1, { group with members := result.2 }) := by
  obtain ⟨answer, rest, events_eq, follows⟩ := GroupProgram.admits_act_iff.mp admitted
  have mapped : ((startBatches patience group 0
      (batches (group.config.startConcurrency - 1).toNat group.members)).bind fun result =>
        .done (result.1, { group with members := result.2 })).Admits fork rest result? := follows
  obtain ⟨inner?, inner, result_eq⟩ := GroupProgram.admits_of_map mapped
  obtain ⟨ends, course⟩ := course_of_startBatches inner
  exact ⟨answer, rest, ends, inner?, events_eq, course, result_eq⟩

theorem startAccount_of_admits (valid : group.config.validate = .ok ())
    {result? : Option (Except Error Unit × Group)}
    (admitted : (group.start patience).Admits 0 events result?) :
    ∃ ends, StartAccount patience group events ends result? := by
  obtain ⟨answer, rest, ends, inner?, rfl, course, rfl⟩ := course_of_start admitted
  exact ⟨ends, startAccount_of_course valid ⟨rfl, rfl⟩ course⟩

/-- A start fails exactly if every member that was reached came to an end and one of them failed. -/
theorem StartAccount.fails_iff {result? : Option (Except Error Unit × Group)}
    (account : StartAccount patience group events ends result?) :
    (∃ error after, result? = some (.error error, after)) ↔
      none ∉ ends ∧ ∃ (index : Nat) (error : Error) (handle : Sandbox),
        ends[index]? = some (some (.error error, handle)) := by
  constructor
  · rintro ⟨error, after, rfl⟩
    obtain ⟨outcomes, index, handle, rfl, _, error_eq, _⟩ := account.failed error after rfl
    exact ⟨by simp, index, error, handle, by simp [error_eq]⟩
  · rintro ⟨joined, index, error, handle, error_eq⟩
    cases result_eq : result? with
    | none =>
        obtain ⟨other, missing, _⟩ := account.endless result_eq
        exact absurd (List.mem_of_getElem? missing) joined
    | some result =>
        obtain ⟨outcome, after⟩ := result
        cases outcome with
        | error other => exact ⟨other, after, rfl⟩
        | ok _ =>
            obtain ⟨_, rfl⟩ := account.succeeded after result_eq
            simp at error_eq

/-- Whatever the world answers and however the tasks of a batch interleave, the start of a group with a
valid configuration does what its account says. -/
theorem start_has_account (valid : group.config.validate = .ok ()) {State : Type}
    (world : GroupWorld State) (schedules : Nat → List Nat) (patience : Nat) (state : State) :
    let run := (group.start patience).runFrom world schedules 0 state
    ∃ ends, StartAccount patience group run.events ends run.result? ∧
      ((∃ error after, run.result? = some (.error error, after)) ↔
        none ∉ ends ∧ ∃ (index : Nat) (error : Error) (handle : Sandbox),
          ends[index]? = some (some (.error error, handle))) := by
  intro run
  have admitted := GroupProgram.admits_runFrom world schedules 0 (group.start patience) state
  obtain ⟨ends, account⟩ := startAccount_of_admits valid admitted
  exact ⟨ends, account, account.fails_iff⟩

/-- Three members in batches of two.  The second member is refused twice, so that the third one is not
started. -/
theorem start_has_account_rehearsed :
    let template : SandboxConfig := { cpus := .finite false 1 0 }
    let config : GroupConfig := { sandbox := template, size := 3, startRetryTimes := 2 }
    let member : Sandbox := { config := template, routeKey := [] }
    let group : Group := { config, members := [member, member, member] }
    let granted := Rehearsal.success [(utf8 "sandbox_id", .string (utf8 "sb-1"))]
    let alive := Rehearsal.success [(utf8 "is_alive", .boolean true)]
    let refused : Except Error Json := .error (.failure (utf8 "no capacity"))
    let world : GroupWorld Int := ⟨fun actor => (Rehearsal.timetable
      (if actor = .task 0 1 then refused else granted) fun _ => alive).answer⟩
    let run := (group.start 2).runFrom world (fun _ => [1, 0, 1]) 0 0
    group.config.validate = .ok () ∧
      run.result?.map (fun result => result.2.members.map Sandbox.state) =
        some [.alive, .stopped, .uninitialized] ∧
      ∃ ends, StartAccount 2 group run.events ends run.result? ∧
        ((∃ error after, run.result? = some (.error error, after)) ↔
          none ∉ ends ∧ ∃ (index : Nat) (error : Error) (handle : Sandbox),
            ends[index]? = some (some (.error error, handle))) := by
  intro template config member group granted alive refused world run
  have valid : group.config.validate = .ok () := by rfl
  exact ⟨valid, by decide +kernel, start_has_account valid world (fun _ => [1, 0, 1]) 2 0⟩

end Group

end SandboxClient
