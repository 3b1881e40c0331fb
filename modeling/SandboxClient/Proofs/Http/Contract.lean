import SandboxClient.Proofs.Http.Sending
import SandboxClient.Proofs.Program.Rehearsal

/-!
# The contract of sending

What a caller may rely on when it sends a request: it gets the JSON value of the body, or it gets the
failure of a remote call that names the method and the address.  One kind of body falls outside of the
contract, a document with a number beyond the doubles.  Its error is passed on as it is.
-/

namespace SandboxClient

/-! ## Bodies in one piece -/

/-- The same report with the body in one piece. -/
def TransferOutcome.joined (outcome : TransferOutcome) : TransferOutcome :=
  { outcome with chunks := [outcome.chunks.flatten] }

/-- The same world with all bodies in one piece. -/
def World.joined {State : Type} (world : World State) : World State where
  answer
    | .transfer transfer, state =>
      let (outcome, after) := world.answer (.transfer transfer) state
      (outcome.joined, after)
    | action, state => world.answer action state

namespace Program

variable {Result Other State : Type}

/-- Whatever pieces a body comes in, the program goes on in the same way. -/
def IgnoresPieces : Program Result → Prop
  | .done _ => True
  | .stalled => True
  | .act (.transfer _) next =>
    ∀ outcome, next outcome.joined = next outcome ∧ (next outcome).IgnoresPieces
  | .act _ next => ∀ answer, (next answer).IgnoresPieces

/-- A program whose exchanges ignore the pieces of a body has the same result if they come in one. -/
theorem IgnoresPieces.run_joined {program : Program Result} (ignores : program.IgnoresPieces)
    (world : World State) (state : State) :
    (program.run world.joined state).result? = (program.run world state).result? := by
  induction program generalizing state with
  | done result => rfl
  | stalled => rfl
  | act action next ih =>
      cases action with
      | transfer transfer =>
          obtain ⟨same, further⟩ := ignores (world.answer (.transfer transfer) state).1
          have later := ih _ further (world.answer (.transfer transfer) state).2
          simp only [run, World.joined] at later ⊢
          rw [same]
          exact later
      | _ => exact ih _ (ignores _) _

/-- What comes before an exchange does not matter. -/
theorem Confined.ignoresPieces_bind {program : Program Result} {continuation : Result → Program Other}
    (quiet : program.Confined Action.IsLocal)
    (ignores : ∀ result, (continuation result).IgnoresPieces) :
    (program.bind continuation).IgnoresPieces := by
  induction program with
  | done result => exact ignores result
  | stalled => trivial
  | act action next ih =>
      cases action with
      | transfer transfer => exact quiet.1.elim
      | _ => exact fun answer => ih answer (quiet.2 answer)

end Program

namespace Exchange

variable {request : Request} {logger? : Option Bytes} {connectTimeout : Int}

theorem decode_joined (request : Request) (outcome : TransferOutcome) :
    decode request outcome.joined = decode request outcome := by
  simp [decode, TransferOutcome.joined]

theorem send_ignoresPieces (logger? : Option Bytes) (connectTimeout : Int) (request : Request) :
    (send logger? connectTimeout request).outcome.IgnoresPieces := by
  have exchanged : ∀ content, (perform logger? connectTimeout request content >>= fun outcome =>
      Attempt.ofExcept (decode request outcome)).outcome.IgnoresPieces := by
    intro content
    have answered : (Program.act (.transfer (transferOf connectTimeout request content)) fun outcome =>
        .done (decode request outcome)).IgnoresPieces :=
      fun outcome => ⟨congrArg Program.done (decode_joined request outcome), trivial⟩
    cases logger? with
    | none => exact answered
    | some logger => exact fun _ => answered
  rw [send, Attempt.outcome_bind]
  refine (confined_obtain _ _ _).ignoresPieces_bind ?_
  rintro (error | _)
  · trivial
  · rw [Attempt.resume, Attempt.outcome_bind]
    refine (confined_encode request).ignoresPieces_bind ?_
    rintro (error | content)
    · trivial
    · exact exchanged content

/-- What a request gets for an answer.  It always gets one. -/
structure Contract (request : Request) (events : List Event) (answer : Except Error Json) : Prop where
  /-- At most one transfer is made, and none for a body that cannot be encoded. -/
  single : (Event.exchanges events).length ≤ 1
  unencodable : contentOf? request = none → Event.exchanges events = []
  /-- A value is the one that the body denotes, and it takes a transfer that went through. -/
  value_iff : ∀ value, answer = .ok value ↔ ∃ exchanged, Event.exchanges events = [exchanged] ∧
    exchanged.outcome.Delivered ∧ Json.parse exchanged.outcome.chunks.flatten = .ok value
  /-- A number beyond the doubles is reported as such. -/
  overflow_iff : ∀ numeral, answer = .error (.numberOverflow numeral) ↔
    ∃ exchanged, Event.exchanges events = [exchanged] ∧ exchanged.outcome.Delivered ∧
      Json.parse exchanged.outcome.chunks.flatten = .error (.overflow numeral)
  /-- Any other error is the failure of a remote call under the method and the address. -/
  failed : ∀ error, answer = .error error → (∀ numeral, error ≠ .numberOverflow numeral) →
    ∃ detail, error = .remote { operation := request.method, url := request.url, detail }

theorem contract_of_admits {events : List Event} {answer? : Option (Except Error Json)}
    (admitted : (send logger? connectTimeout request).outcome.Admits events answer?) :
    ∃ answer, answer? = some answer ∧ Contract request events answer := by
  rcases send_cases admitted with ⟨unsent, detail, rfl⟩ | ⟨content, outcome, encodes, sent, rfl⟩
  · refine ⟨_, rfl, ?_⟩
    exact
      { single := by simp [unsent]
        unencodable := fun _ => unsent
        value_iff := by simp [unsent]
        overflow_iff := by simp [unsent, failure, Error.call]
        failed := by
          rintro error ⟨⟩ _
          exact ⟨detail, rfl⟩ }
  · refine ⟨_, rfl, ?_⟩
    exact
      { single := by simp [sent]
        unencodable := fun unencodable => by rw [unencodable] at encodes; cases encodes
        value_iff := by simp [sent, decode_ok_iff]
        overflow_iff := by simp [sent, decode_overflow_iff]
        failed := by
          intro error reads bounded
          rcases decode_error reads with ⟨numeral, overflows⟩ | ⟨detail, fails⟩
          · exact absurd overflows (bounded numeral)
          · exact ⟨detail, fails⟩ }

/-- Whatever the transfer library reports, a send keeps the contract, and its answer does not depend on
the pieces that a body comes in. -/
theorem send_keeps_contract {State : Type} (logger? : Option Bytes) (connectTimeout : Int)
    (request : Request) (world : World State) (state : State) :
    let sending := (send logger? connectTimeout request).outcome
    let run := sending.run world state
    (∃ answer, run.result? = some answer ∧ Contract request run.events answer) ∧
      (sending.run world.joined state).result? = run.result? :=
  ⟨contract_of_admits (Program.admits_run world _ state),
    (send_ignoresPieces logger? connectTimeout request).run_joined world state⟩

/-- The numeral that a send fails with, if it fails with one that is too large. -/
def overflowNumeral? : (result? : Option (Except Error Json)) → Option Bytes
  | some (.error (.numberOverflow numeral)) => some numeral
  | _ => none

theorem eq_of_overflowNumeral? {result? : Option (Except Error Json)} {numeral : Bytes}
    (overflows : overflowNumeral? result? = some numeral) :
    result? = some (.error (.numberOverflow numeral)) := by
  unfold overflowNumeral? at overflows
  split at overflows
  next => rw [Option.some.inj overflows]
  next => cases overflows

/-- The body of a status of the two-hundreds may make a send fail with an error that is no failure of a
remote call. -/
theorem send_passes_overflow_on :
    let request : Request := {
      url := utf8 "http://rock.test/apis/envs/sandbox/v1/execute", headers := [], timeout := 1000,
      payload := .get }
    let world : World Rehearsal := ⟨fun action rehearsal =>
      match action with
      | .transfer _ => ({ chunks := [utf8 "1e400"] }, rehearsal)
      | action => Rehearsal.answer action rehearsal⟩
    let run := (send (some logger) defaultConnectTimeout request).outcome.run world ⟨[], 0⟩
    run.result? = some (.error (.numberOverflow (utf8 "1e400"))) ∧
      ¬ ∃ failure, run.result? = some (.error (.remote failure)) := by
  intro request world run
  have overflows : overflowNumeral? run.result? = some (utf8 "1e400") := by decide +kernel
  have result_eq := eq_of_overflowNumeral? overflows
  refine ⟨result_eq, ?_⟩
  rintro ⟨failure, shown⟩
  rw [result_eq] at shown
  cases shown

end Exchange

end SandboxClient
