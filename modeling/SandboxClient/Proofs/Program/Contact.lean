import SandboxClient.Proofs.Program.Behaviour

/-!
# What can be seen of a behaviour

Two views of a list of events: the calls to the service with their answers, and everything but the
log records.
-/

namespace SandboxClient

/-- A call to the service with its answer. -/
structure Contact where
  request : Request
  answer : Except Error Json

/-- A call as an event. -/
def Contact.event (contact : Contact) : Event :=
  ⟨.request contact.request, contact.answer⟩

/-- Whether an action writes a log record. -/
def Action.isLog : Action → Bool
  | .log _ => true
  | _ => false

/-- An action that does not reach the service. -/
def Action.IsQuiet : Action → Prop
  | .request _ | .acquire _ | .transfer _ => False
  | _ => True

namespace Event

/-- The call that an event is, if it is one. -/
def contact? : Event → Option Contact
  | ⟨.request request, answer⟩ => some ⟨request, answer⟩
  | _ => none

/-- The calls to the service among events, in order. -/
def contacts (events : List Event) : List Contact :=
  events.filterMap contact?

/-- The events that are not log records, in order. -/
def visible (events : List Event) : List Event :=
  events.filter fun event => !event.action.isLog

@[simp]
theorem contacts_nil : contacts [] = [] :=
  rfl

@[simp]
theorem contacts_append (first second : List Event) :
    contacts (first ++ second) = contacts first ++ contacts second := by
  simp [contacts]

@[simp]
theorem contacts_request (request : Request) (answer : (Action.request request).Answer)
    (events : List Event) :
    contacts (⟨.request request, answer⟩ :: events) = ⟨request, answer⟩ :: contacts events :=
  rfl

@[simp]
theorem contacts_log (record : Log.Record) (answer : (Action.log record).Answer)
    (events : List Event) : contacts (⟨.log record, answer⟩ :: events) = contacts events :=
  rfl

@[simp]
theorem contacts_sleep (millis : Int) (answer : (Action.sleep millis).Answer)
    (events : List Event) : contacts (⟨.sleep millis, answer⟩ :: events) = contacts events :=
  rfl

@[simp]
theorem contacts_now (reading : Action.now.Answer) (events : List Event) :
    contacts (⟨.now, reading⟩ :: events) = contacts events :=
  rfl

@[simp]
theorem contacts_epochMillis (reading : Action.epochMillis.Answer) (events : List Event) :
    contacts (⟨.epochMillis, reading⟩ :: events) = contacts events :=
  rfl

@[simp]
theorem contacts_map_event (calls : List Contact) : contacts (calls.map Contact.event) = calls := by
  induction calls with
  | nil => rfl
  | cons call calls ih => exact congrArg (List.cons call) ih

theorem mem_of_mem_contacts {events : List Event} {contact : Contact}
    (member : contact ∈ contacts events) :
    (⟨.request contact.request, contact.answer⟩ : Event) ∈ events := by
  obtain ⟨⟨action, answer⟩, present, called⟩ := List.mem_filterMap.mp member
  cases action with
  | request request =>
      cases called
      exact present
  | _ => cases called

theorem exists_contact {events : List Event} {event : Event} {request : Request} (member : event ∈ events)
    (requests : event.action = .request request) : ∃ call ∈ contacts events, call.request = request := by
  obtain ⟨action, answer⟩ := event
  cases requests
  exact ⟨⟨request, answer⟩, List.mem_filterMap.mpr ⟨_, member, rfl⟩, rfl⟩

theorem contacts_eq_nil_of_isQuiet {events : List Event}
    (quiet : ∀ event ∈ events, event.action.IsQuiet) : contacts events = [] := by
  rw [contacts, List.filterMap_eq_nil_iff]
  rintro ⟨action, answer⟩ member
  cases action with
  | request request => exact (quiet _ member).elim
  | _ => rfl

@[simp]
theorem visible_nil : visible [] = [] :=
  rfl

@[simp]
theorem visible_append (first second : List Event) :
    visible (first ++ second) = visible first ++ visible second := by
  simp [visible]

@[simp]
theorem visible_log (record : Log.Record) (answer : (Action.log record).Answer)
    (events : List Event) : visible (⟨.log record, answer⟩ :: events) = visible events :=
  rfl

@[simp]
theorem visible_request (request : Request) (answer : (Action.request request).Answer)
    (events : List Event) :
    visible (⟨.request request, answer⟩ :: events) =
      ⟨.request request, answer⟩ :: visible events :=
  rfl

@[simp]
theorem visible_sleep (millis : Int) (answer : (Action.sleep millis).Answer)
    (events : List Event) :
    visible (⟨.sleep millis, answer⟩ :: events) = ⟨.sleep millis, answer⟩ :: visible events :=
  rfl

@[simp]
theorem visible_now (reading : Action.now.Answer) (events : List Event) :
    visible (⟨.now, reading⟩ :: events) = ⟨.now, reading⟩ :: visible events :=
  rfl

@[simp]
theorem visible_epochMillis (reading : Action.epochMillis.Answer) (events : List Event) :
    visible (⟨.epochMillis, reading⟩ :: events) = ⟨.epochMillis, reading⟩ :: visible events :=
  rfl

theorem contacts_visible (events : List Event) : contacts (visible events) = contacts events := by
  induction events with
  | nil => rfl
  | cons event events ih =>
      obtain ⟨action, answer⟩ := event
      cases action with
      | request request => exact congrArg (List.cons _) ih
      | _ => exact ih

theorem contacts_eq_nil_of_visible {events : List Event} (unseen : visible events = []) :
    contacts events = [] := by
  rw [← contacts_visible, unseen, contacts_nil]

/-- Some events without a few that are no calls. -/
structure Trimmed (own events : List Event) : Prop where
  sublist : own.Sublist events
  contacts_eq : contacts own = contacts events

namespace Trimmed

variable {own other events more : List Event}

theorem refl (events : List Event) : Trimmed events events :=
  ⟨.refl events, rfl⟩

theorem trans (first : Trimmed own events) (second : Trimmed events more) : Trimmed own more :=
  ⟨first.sublist.trans second.sublist, first.contacts_eq.trans second.contacts_eq⟩

theorem append (first : Trimmed own events) (second : Trimmed other more) :
    Trimmed (own ++ other) (events ++ more) :=
  ⟨first.sublist.append second.sublist, by simp [first.contacts_eq, second.contacts_eq]⟩

theorem of_silent (silent : contacts events = []) : Trimmed [] events :=
  ⟨List.nil_sublist events, silent.symm⟩

theorem cons (trimmed : Trimmed own events) {event : Event}
    (quiet : event.action.IsQuiet := by trivial) : Trimmed own (event :: events) where
  sublist := trimmed.sublist.cons event
  contacts_eq := by
    have silent : contacts [event] = [] := contacts_eq_nil_of_isQuiet (by simpa using quiet)
    rw [trimmed.contacts_eq, ← List.singleton_append, contacts_append, silent, List.nil_append]

theorem visible (trimmed : Trimmed own events) : Trimmed (Event.visible own) events where
  sublist := List.filter_sublist.trans trimmed.sublist
  contacts_eq := by rw [contacts_visible, trimmed.contacts_eq]

/-- What comes before and makes no calls can be left out. -/
theorem after (trimmed : Trimmed own events) (silent : contacts more = []) :
    Trimmed own (more ++ events) :=
  (of_silent silent).append trimmed

/-- What comes afterwards and makes no calls can be left out. -/
theorem before (trimmed : Trimmed own events) (silent : contacts more = []) :
    Trimmed own (events ++ more) := by
  simpa using trimmed.append (of_silent silent)

end Trimmed

end Event

/-- A record that is written first makes no call. -/
theorem Attempt.exists_of_log_bind {Result : Type} {logger message : Bytes} {level : Log.Level}
    {continuation : Unit → Attempt Result} {events : List Event}
    {outcome? : Option (Except Error Result)}
    (admitted : ((liftM (Program.log logger level message) : Attempt Unit) >>=
      continuation).outcome.Admits events outcome?) :
    ∃ rest, Event.contacts events = Event.contacts rest ∧
      (continuation ()).outcome.Admits rest outcome? := by
  rw [outcome_lift_bind] at admitted
  obtain ⟨_, rest, rfl, follows⟩ := Program.admits_act_iff.mp admitted
  exact ⟨rest, rfl, follows⟩

/-- Nothing is seen of a program that writes a log record and ends. -/
theorem Program.visible_of_log {Result : Type} {record : Log.Record} {result : Result}
    {events : List Event} {result? : Option Result}
    (admitted : (Program.act (.log record) fun _ => .done result).Admits events result?) :
    Event.visible events = [] ∧ result? = some result := by
  obtain ⟨_, _, rfl, finished⟩ := admits_act_iff.mp admitted
  obtain ⟨rfl, rfl⟩ := admits_done_iff.mp finished
  exact ⟨rfl, rfl⟩

end SandboxClient
