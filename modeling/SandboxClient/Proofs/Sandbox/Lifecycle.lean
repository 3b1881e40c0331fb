import SandboxClient.Proofs.Sandbox.Starting

/-!
# What starting and stopping do to a handle

A start that is not refused settles the handle or abandons it, and a stop stops a handle that has an
identity.
-/

namespace SandboxClient

namespace Sandbox

variable {sandbox after : Sandbox} {patience : Nat} {events : List Event}
  {outcome : Except Error Unit}

theorem id_ne_nil_of_grantedPlacement? {answer : Except Error Json} {placement : Placement}
    (grants : grantedPlacement? answer = some placement) : placement.id ≠ [] := by
  cases answer with
  | error error => cases grants
  | ok response =>
      simp only [grantedPlacement?] at grants
      split at grants
      · split at grants
        · split at grants
          · cases grants
          · obtain rfl := Option.some.inj grants
            assumption
        · cases grants
      · cases grants

/-- Starting a live handle does nothing and succeeds. -/
theorem start_of_alive {result? : Option (Except Error Unit × Sandbox)} (alive : sandbox.state = .alive)
    (admitted : (sandbox.start patience).Admits events result?) :
    Event.contacts events = [] ∧ result? = some (.ok (), sandbox) := by
  rw [start, if_pos alive] at admitted
  obtain ⟨_, _, rfl, ended⟩ := Program.admits_act_iff.mp admitted
  obtain ⟨rfl, rfl⟩ := Program.admits_done_iff.mp ended
  exact ⟨rfl, rfl⟩

/-- A start of a live handle or with a configuration that is not valid leaves the handle alone.  Any
other fails and abandons the handle, or succeeds and settles it where the answer to its first call
placed it. -/
theorem start_cases (admitted : (sandbox.start patience).Admits events (some (outcome, after))) :
    (sandbox.state = .alive ∧ outcome = .ok () ∧ after = sandbox ∧ Event.contacts events = []) ∨
      (sandbox.config.validate ≠ .ok () ∧ (∃ error, outcome = .error error) ∧ after = sandbox ∧
        Event.contacts events = []) ∨
      ((sandbox.state ≠ .alive ∧ sandbox.config.validate = .ok ()) ∧
        ((∃ error, outcome = .error error) ∧ after = sandbox.abandoned ∨
          outcome = .ok () ∧ ∃ answer placement status,
            (Event.contacts events).head? = some ⟨sandbox.scheduleRequest, answer⟩ ∧
            grantedPlacement? answer = some placement ∧
            after = sandbox.settledAt placement status)) := by
  by_cases alive : sandbox.state = .alive
  · obtain ⟨silent, equal⟩ := start_of_alive alive admitted
    cases equal
    exact .inl ⟨alive, rfl, rfl, silent⟩
  · rw [start, if_neg alive] at admitted
    split at admitted
    next error refused =>
      obtain ⟨rfl, equal⟩ := Program.admits_done_iff.mp admitted
      cases equal
      exact .inr (.inl ⟨by simp [refused], ⟨error, rfl⟩, rfl, rfl⟩)
    next valid =>
      refine .inr (.inr ⟨⟨alive, valid⟩, ?_⟩)
      have course := startCourse_of_launch admitted
      have calls := Event.contacts_visible events
      generalize result_eq : some (outcome, after) = result? at course
      generalize Event.visible events = visible at course calls
      cases course with
      | refused answer error refuses =>
          cases result_eq
          exact .inl ⟨⟨error, rfl⟩, rfl⟩
      | granted answer start grants watched =>
          obtain ⟨verdict, _, ended⟩ := Option.map_eq_some_iff.mp result_eq.symm
          cases verdict with
          | none =>
              cases ended
              exact .inl ⟨⟨_, rfl⟩, rfl⟩
          | some status =>
              cases ended
              exact .inr ⟨rfl, answer, _, status, by simp [← calls], grants, rfl⟩

theorem alive_of_start (admitted : (sandbox.start patience).Admits events (some (.ok (), after))) :
    after.state = .alive := by
  rcases start_cases admitted with ⟨alive, _, rfl, _⟩ | ⟨_, ⟨_, impossible⟩, _⟩ |
    ⟨_, ⟨⟨_, impossible⟩, _⟩ | ⟨_, _, _, _, _, _, rfl⟩⟩
  · exact alive
  · cases impossible
  · cases impossible
  · rfl

def stopRequest (sandbox : Sandbox) : Request :=
  sandbox.postRequest (utf8 "stop") (.object [(utf8 "sandbox_id", .string sandbox.id)])
    defaultTimeout

/-- Stopping always comes to an end.  It leaves a handle alone that has no identity or is stopped, and
stops any other with one call, whatever the answer. -/
theorem stop_cases {result? : Option Sandbox} (admitted : sandbox.stop.Admits events result?) :
    ((sandbox.id = [] ∨ sandbox.state = .stopped) ∧ events = [] ∧ result? = some sandbox) ∨
      ((sandbox.id ≠ [] ∧ sandbox.state ≠ .stopped) ∧
        (∃ answer, Event.contacts events = [⟨sandbox.stopRequest, answer⟩]) ∧
        result? = some { sandbox with state := .stopped }) := by
  rw [stop] at admitted
  split at admitted
  next idle =>
    obtain ⟨rfl, rfl⟩ := Program.admits_done_iff.mp admitted
    exact .inl ⟨by simpa using idle, rfl, rfl⟩
  next busy =>
    have running : sandbox.id ≠ [] ∧ sandbox.state ≠ .stopped := by simpa using busy
    simp only [outcome_call, bind, Program.bind, log, Program.log, Program.admits_act_iff] at admitted
    obtain ⟨_, _, rfl, _, _, rfl, answer, rest, rfl, follows⟩ := admitted
    have ended : Event.contacts rest = [] ∧ result? = some { sandbox with state := .stopped } := by
      cases called : sandbox.callOutcome (utf8 "stop sandbox") (utf8 "stop") answer with
      | ok result =>
          rw [called] at follows
          obtain ⟨_, _, rfl, entered⟩ := Program.admits_act_iff.mp follows
          obtain ⟨rfl, rfl⟩ := Program.admits_done_iff.mp entered
          exact ⟨rfl, rfl⟩
      | error error =>
          rw [called] at follows
          obtain ⟨_, _, rfl, noted⟩ := Program.admits_act_iff.mp follows
          obtain ⟨_, _, rfl, entered⟩ := Program.admits_act_iff.mp noted
          obtain ⟨rfl, rfl⟩ := Program.admits_done_iff.mp entered
          exact ⟨rfl, rfl⟩
    obtain ⟨silent, stopped⟩ := ended
    exact .inr ⟨running, ⟨answer, by simp [silent, stopRequest]⟩, stopped⟩

/-- A start calls the service first for a sandbox and after that only for a status, unless the handle is
alive or the start is refused: then it makes no call. -/
theorem contacts_start {result? : Option (Except Error Unit × Sandbox)}
    (admitted : (sandbox.start patience).Admits events result?) :
    Event.contacts events = [] ∨
      (sandbox.state ≠ .alive ∧ ∃ answer looks,
        Event.contacts events = ⟨sandbox.scheduleRequest, answer⟩ :: looks ∧
        ∀ look ∈ looks, ∃ id timeout, look.request = sandbox.statusRequest id timeout) := by
  by_cases alive : sandbox.state = .alive
  · exact .inl (start_of_alive alive admitted).1
  · rw [start, if_neg alive] at admitted
    split at admitted
    next =>
      obtain ⟨rfl, _⟩ := Program.admits_done_iff.mp admitted
      exact .inl rfl
    next =>
      refine .inr ⟨alive, ?_⟩
      have course := startCourse_of_launch admitted
      rw [← Event.contacts_visible]
      generalize Event.visible events = visible at course
      cases course with
      | refused answer error refuses => exact ⟨answer, [], rfl, by simp⟩
      | @granted answer start placement looks rounds verdict? grants watched =>
          refine ⟨answer, looks.map ((sandbox.watching placement.id).contact start), ?_, ?_⟩
          · simp [watched.contacts_eq]
          · intro look member
            obtain ⟨taken, _, rfl⟩ := List.mem_map.mp member
            exact ⟨placement.id, _, rfl⟩

/-! ## What starting and stopping may do -/

/-- A request that a start may make.  Its looks at the status are bounded by the time that is left. -/
def Launches (sandbox : Sandbox) (request : Request) : Prop :=
  request = sandbox.scheduleRequest ∨
    ∃ id timeout, 0 < timeout ∧ request = sandbox.statusRequest id timeout

theorem confined_pollStatus (sandbox : Sandbox) (id : Bytes) (start : Int) (patience : Nat) :
    (sandbox.pollStatus id start patience).Confined (Action.Within sandbox.Launches) := by
  induction patience with
  | zero => trivial
  | succ patience ih =>
      refine ⟨trivial, fun reading => ?_⟩
      simp only [Program.pure_bind]
      split
      · trivial
      next within =>
        have left : 0 < min statusTimeout
            (sandbox.startBudget - Clock.millisBetween start reading) := by
          have brief : statusTimeout = 10000 := rfl
          omega
        rw [outcome_fetchStatus]
        refine ⟨.inr ⟨id, _, left, rfl⟩, fun answer => ?_⟩
        simp only [Program.bind]
        cases sandbox.statusOutcome id answer with
        | error error => exact ⟨trivial, fun _ => ⟨trivial, fun _ => ih⟩⟩
        | ok status =>
            simp only
            split
            · trivial
            · exact ⟨trivial, fun _ => ih⟩

theorem confined_launch (sandbox : Sandbox) (patience : Nat) :
    (sandbox.launch patience).Confined (Action.Within sandbox.Launches) := by
  -- the requests do not depend on the state that is entered
  let entered : Sandbox := { sandbox with state := .starting }
  have scheduled : entered.schedule.outcome.Confined (Action.Within sandbox.Launches) := by
    rw [outcome_schedule]
    exact ⟨trivial, fun _ => ⟨.inl rfl, fun _ => trivial⟩⟩
  refine ⟨trivial, fun _ => ⟨trivial, fun _ => scheduled.bind fun outcome => ?_⟩⟩
  cases outcome with
  | error error => exact ⟨trivial, fun _ => ⟨trivial, fun _ => trivial⟩⟩
  | ok placement =>
      refine ⟨trivial, fun _ => ⟨trivial, fun _ => ⟨trivial, fun start => ?_⟩⟩⟩
      refine (confined_pollStatus entered placement.id start patience).bind fun awaited => ?_
      cases awaited with
      | error error => exact ⟨trivial, fun _ => ⟨trivial, fun _ => trivial⟩⟩
      | ok status => exact ⟨trivial, fun _ => ⟨trivial, fun _ => trivial⟩⟩

/-- A start makes its requests only with a configuration that is valid. -/
theorem confined_start {permitted : Request → Prop} (sandbox : Sandbox)
    (launches : sandbox.config.validate = .ok () → ∀ request, sandbox.Launches request →
      permitted request) (patience : Nat) :
    (sandbox.start patience).Confined (Action.Within permitted) := by
  rw [start]
  split
  · exact ⟨trivial, fun _ => trivial⟩
  · split
    · trivial
    next valid =>
      exact (confined_launch sandbox patience).mono fun _ within => within.mono (launches valid)

theorem confined_stop (sandbox : Sandbox) :
    sandbox.stop.Confined (Action.Within (· = sandbox.stopRequest)) := by
  rw [stop]
  split
  · trivial
  · have called : (sandbox.call (utf8 "stop sandbox") (utf8 "stop")
        (.object [(utf8 "sandbox_id", .string sandbox.id)]) defaultTimeout).outcome.Confined
          (Action.Within (· = sandbox.stopRequest)) := confined_call rfl
    refine ⟨trivial, fun _ => called.bind fun outcome => ?_⟩
    cases outcome with
    | ok result => exact ⟨trivial, fun _ => trivial⟩
    | error error => exact ⟨trivial, fun _ => ⟨trivial, fun _ => trivial⟩⟩

end Sandbox

end SandboxClient
