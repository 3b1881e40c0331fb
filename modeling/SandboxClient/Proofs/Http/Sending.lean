import SandboxClient.Proofs.Program.Confinement
import SandboxClient.Http.Exchange

/-!
# Sending a request over HTTP

A request is prepared, handed to the transfer library at most once, and answered by what the library
reports.  Preparing fails under the method and the address of the request, and so does every report but
two: a body that is a JSON document, and one with a number beyond the doubles.
-/

namespace SandboxClient

/-- What was handed to the transfer library, and what it reported. -/
structure Exchanged where
  transfer : Transfer
  outcome : TransferOutcome

namespace Event

def exchanged? : Event → Option Exchanged
  | ⟨.transfer transfer, outcome⟩ => some ⟨transfer, outcome⟩
  | _ => none

/-- The exchanges among events, in order. -/
def exchanges (events : List Event) : List Exchanged :=
  events.filterMap exchanged?

@[simp]
theorem exchanges_nil : exchanges [] = [] :=
  rfl

@[simp]
theorem exchanges_append (first second : List Event) :
    exchanges (first ++ second) = exchanges first ++ exchanges second := by
  simp [exchanges]

end Event

/-- A transfer went through: it succeeded, and the status is one of the two-hundreds. -/
def TransferOutcome.Delivered (outcome : TransferOutcome) : Prop :=
  outcome.resultCode = 0 ∧ 200 ≤ outcome.status ∧ outcome.status < 300

/-- An action that is not an exchange. -/
def Action.IsLocal : Action → Prop
  | .transfer _ => False
  | _ => True

namespace Exchange

variable {logger? : Option Bytes} {connectTimeout : Int} {request : Request} {events : List Event}

/-- What a request puts into its transfer, if that can be encoded. -/
def contentOf? (request : Request) : Option TransferContent :=
  match request.payload with
  | .post body => body.document.toOption.map .post
  | .get => some .get
  | .form fields file => some (.form (formParts fields file))

/-! ## The steps -/

theorem exchanges_eq_nil_of_isLocal (quiet : ∀ event ∈ events, event.action.IsLocal) :
    Event.exchanges events = [] := by
  rw [Event.exchanges, List.filterMap_eq_nil_iff]
  rintro ⟨action, answer⟩ member
  cases action with
  | transfer transfer => exact (quiet _ member).elim
  | _ => rfl

theorem confined_obtain (request : Request) (resource : TransferResource) (complaint : Bytes) :
    (obtain request resource complaint).outcome.Confined Action.IsLocal := by
  refine Attempt.confined_bind ⟨trivial, fun _ => trivial⟩ fun held => ?_
  cases held <;> trivial

theorem confined_encode (request : Request) : (encode request).outcome.Confined Action.IsLocal := by
  rw [encode]
  cases request.payload with
  | post body => exact Attempt.confined_bind trivial fun _ => trivial
  | get => trivial
  | form fields file => exact Attempt.confined_bind (confined_obtain _ _ _) fun _ => trivial

theorem obtain_cases {resource : TransferResource} {complaint : Bytes}
    {outcome? : Option (Except Error Unit)}
    (admitted : (obtain request resource complaint).outcome.Admits events outcome?) :
    outcome? = some (.ok ()) ∨ outcome? = some (.error (failure request complaint)) := by
  obtain ⟨held, rest, rfl, follows⟩ := Program.admits_act_iff.mp admitted
  cases held with
  | false => exact .inr (Program.admits_done_iff.mp follows).2
  | true => exact .inl (Program.admits_done_iff.mp follows).2

theorem encodeBody_eq (method url : Bytes) (body : Json) :
    (∃ text, body.document.toOption = some text ∧ encodeBody method url body = .ok text) ∨
      ∃ detail, encodeBody method url body = .error (.call method url detail) := by
  rw [encodeBody]
  cases body.document with
  | ok text => exact .inl ⟨text, rfl, rfl⟩
  | error error => exact .inr ⟨_, rfl⟩

theorem encode_cases {outcome? : Option (Except Error TransferContent)}
    (admitted : (encode request).outcome.Admits events outcome?) :
    (∃ content, contentOf? request = some content ∧ outcome? = some (.ok content)) ∨
      ∃ detail, outcome? = some (.error (failure request detail)) := by
  rw [encode] at admitted
  cases payload_eq : request.payload with
  | post body =>
      rw [payload_eq] at admitted
      rcases encodeBody_eq request.method request.url body with ⟨text, encodes, ok⟩ | ⟨detail, fails⟩
      · simp only [ok, Attempt.outcome_ok_bind] at admitted
        refine .inl ⟨.post text, by simp [contentOf?, payload_eq, encodes], ?_⟩
        exact (Program.admits_done_iff.mp admitted).2
      · simp only [fails, Attempt.outcome_error_bind] at admitted
        exact .inr ⟨detail, (Program.admits_done_iff.mp admitted).2⟩
  | get =>
      rw [payload_eq] at admitted
      exact .inl ⟨.get, by simp [contentOf?, payload_eq], (Program.admits_done_iff.mp admitted).2⟩
  | form fields file =>
      rw [payload_eq] at admitted
      rcases Attempt.admits_bind_iff.mp admitted with
        ⟨_, first, second, rfl, _, ended⟩ | ⟨error, refused, rfl⟩ | ⟨stalls, _⟩
      · refine .inl ⟨_, by simp [contentOf?, payload_eq], (Program.admits_done_iff.mp ended).2⟩
      · rcases obtain_cases refused with impossible | same
        · cases impossible
        · cases same
          exact .inr ⟨_, rfl⟩
      · rcases obtain_cases stalls with impossible | impossible <;> cases impossible

/-- What is done with the content of a transfer: it is noted, exchanged and answered. -/
theorem exchange_cases {content : TransferContent} {answer? : Option (Except Error Json)}
    (admitted : (perform logger? connectTimeout request content >>= fun outcome =>
      Attempt.ofExcept (decode request outcome)).outcome.Admits events answer?) :
    ∃ outcome, Event.exchanges events = [⟨transferOf connectTimeout request content, outcome⟩] ∧
      answer? = some (decode request outcome) := by
  have exchanged : ∀ {rest : List Event}, (Program.act (.transfer (transferOf connectTimeout request
      content)) fun outcome => .done (decode request outcome)).Admits rest answer? →
      ∃ outcome, Event.exchanges rest = [⟨transferOf connectTimeout request content, outcome⟩] ∧
        answer? = some (decode request outcome) := by
    intro rest admitted
    obtain ⟨outcome, _, rfl, ended⟩ := Program.admits_act_iff.mp admitted
    obtain ⟨rfl, rfl⟩ := Program.admits_done_iff.mp ended
    exact ⟨outcome, rfl, rfl⟩
  cases logger? with
  | none => exact exchanged admitted
  | some logger =>
      obtain ⟨_, rest, rfl, follows⟩ := Program.admits_act_iff.mp admitted
      obtain ⟨outcome, exchanges_eq, answer_eq⟩ := exchanged follows
      exact ⟨outcome, exchanges_eq, answer_eq⟩

/-- A send fails before it transfers anything, or it makes one transfer and answers what that reports. -/
theorem send_cases {answer? : Option (Except Error Json)}
    (admitted : (send logger? connectTimeout request).outcome.Admits events answer?) :
    (Event.exchanges events = [] ∧ ∃ detail, answer? = some (.error (failure request detail))) ∨
      ∃ content outcome, contentOf? request = some content ∧
        Event.exchanges events = [⟨transferOf connectTimeout request content, outcome⟩] ∧
        answer? = some (decode request outcome) := by
  rw [send] at admitted
  rcases Attempt.admits_bind_iff.mp admitted with
    ⟨_, first, later, rfl, held, follows⟩ | ⟨error, refused, rfl⟩ | ⟨stalls, _⟩
  · have heldQuiet := exchanges_eq_nil_of_isLocal ((confined_obtain _ _ _).allowed_of_admits held)
    rcases Attempt.admits_bind_iff.mp follows with
      ⟨content, second, third, rfl, encoded, rest⟩ | ⟨error, failed, rfl⟩ | ⟨stalls, _⟩
    · have encodedQuiet := exchanges_eq_nil_of_isLocal ((confined_encode _).allowed_of_admits encoded)
      rcases encode_cases encoded with ⟨other, encodes, same⟩ | ⟨_, impossible⟩
      · cases same
        obtain ⟨outcome, exchanged, rfl⟩ := exchange_cases rest
        exact .inr ⟨content, outcome, encodes, by simp [heldQuiet, encodedQuiet, exchanged], rfl⟩
      · cases impossible
    · have failedQuiet := exchanges_eq_nil_of_isLocal ((confined_encode _).allowed_of_admits failed)
      rcases encode_cases failed with ⟨_, _, impossible⟩ | ⟨detail, same⟩
      · cases impossible
      · cases same
        exact .inl ⟨by simp [heldQuiet, failedQuiet], detail, rfl⟩
    · rcases encode_cases stalls with ⟨_, _, impossible⟩ | ⟨_, impossible⟩ <;> cases impossible
  · have quiet := exchanges_eq_nil_of_isLocal ((confined_obtain _ _ _).allowed_of_admits refused)
    rcases obtain_cases refused with impossible | same
    · cases impossible
    · cases same
      exact .inl ⟨quiet, _, rfl⟩
  · rcases obtain_cases stalls with impossible | impossible <;> cases impossible

/-! ## What the library reports -/

theorem decode_of_delivered {outcome : TransferOutcome} (delivered : outcome.Delivered) :
    decode request outcome = decodeBody request outcome.chunks.flatten := by
  obtain ⟨succeeded, low, high⟩ := delivered
  have inside : ¬ (outcome.status < 200 ∨ 300 ≤ outcome.status) := by omega
  simp [decode, succeeded, inside, timedOut]

theorem decode_of_not_delivered (request : Request) {outcome : TransferOutcome} (lost : ¬ outcome.Delivered) :
    ∃ detail, decode request outcome = .error (failure request detail) := by
  rw [decode]
  split
  · exact ⟨_, rfl⟩
  · split
    · exact ⟨_, rfl⟩
    · next succeeded =>
      have outside : outcome.status < 200 ∨ 300 ≤ outcome.status := by
        by_cases inside : outcome.status < 200 ∨ 300 ≤ outcome.status
        · exact inside
        · exact absurd ⟨by omega, by omega, by omega⟩ lost
      rw [if_pos outside]
      exact ⟨_, rfl⟩

theorem decodeBody_eq (request : Request) (body : Bytes) :
    (∃ value, Json.parse body = .ok value ∧ decodeBody request body = .ok value) ∨
      (∃ numeral, Json.parse body = .error (.overflow numeral) ∧
        decodeBody request body = .error (.numberOverflow numeral)) ∨
      ∃ complaint detail, Json.parse body = .error (.malformed complaint) ∧
        decodeBody request body = .error (failure request detail) := by
  rw [decodeBody]
  cases Json.parse body with
  | ok value => exact .inl ⟨value, rfl, rfl⟩
  | error fault =>
      cases fault with
      | overflow numeral => exact .inr (.inl ⟨numeral, rfl, rfl⟩)
      | malformed complaint => exact .inr (.inr ⟨complaint, _, rfl, rfl⟩)

theorem decode_ok_iff {outcome : TransferOutcome} {value : Json} :
    decode request outcome = .ok value ↔
      outcome.Delivered ∧ Json.parse outcome.chunks.flatten = .ok value := by
  by_cases delivered : outcome.Delivered
  · rw [decode_of_delivered delivered]
    rcases decodeBody_eq request outcome.chunks.flatten with
      ⟨other, parses, reads⟩ | ⟨_, parses, reads⟩ | ⟨_, _, parses, reads⟩ <;>
      simp [delivered, parses, reads]
  · obtain ⟨detail, reads⟩ := decode_of_not_delivered request delivered
    simp [delivered, reads]

theorem decode_overflow_iff {outcome : TransferOutcome} {numeral : Bytes} :
    decode request outcome = .error (.numberOverflow numeral) ↔
      outcome.Delivered ∧ Json.parse outcome.chunks.flatten = .error (.overflow numeral) := by
  by_cases delivered : outcome.Delivered
  · rw [decode_of_delivered delivered]
    rcases decodeBody_eq request outcome.chunks.flatten with
      ⟨other, parses, reads⟩ | ⟨_, parses, reads⟩ | ⟨_, _, parses, reads⟩ <;>
      simp [delivered, parses, reads, failure, Error.call]
  · obtain ⟨detail, reads⟩ := decode_of_not_delivered request delivered
    simp [delivered, reads, failure, Error.call]

theorem decode_error {outcome : TransferOutcome} {error : Error}
    (reads : decode request outcome = .error error) :
    (∃ numeral, error = .numberOverflow numeral) ∨ ∃ detail, error = failure request detail := by
  by_cases delivered : outcome.Delivered
  · rw [decode_of_delivered delivered] at reads
    rcases decodeBody_eq request outcome.chunks.flatten with
      ⟨_, _, same⟩ | ⟨numeral, _, same⟩ | ⟨_, detail, _, same⟩
    · rw [same] at reads
      cases reads
    · rw [same] at reads
      cases reads
      exact .inl ⟨numeral, rfl⟩
    · rw [same] at reads
      cases reads
      exact .inr ⟨detail, rfl⟩
  · obtain ⟨detail, same⟩ := decode_of_not_delivered request delivered
    rw [same] at reads
    cases reads
    exact .inr ⟨detail, rfl⟩

end Exchange

end SandboxClient
