import SandboxClient.Envelope
import SandboxClient.Proofs.Results

/-!
# Opening envelopes

An envelope opens to its result exactly if it reports success.  Any other response becomes a failed remote
call with the whole response as its detail.  The code that it reports names the class of the failure and
decides nothing else: a success code inside a response that does not report success is a failure as well.
-/

namespace SandboxClient

/-! ## Classes of failures -/

/-- The codes that belong to a class: each class has a thousand of them, and the rest are plain. -/
def RemoteClass.Covers : RemoteClass → (code : Int) → Prop
  | .badRequest, code => 4000 ≤ code ∧ code ≤ 4999
  | .internal, code => 5000 ≤ code ∧ code ≤ 5999
  | .command, code => 6000 ≤ code ∧ code ≤ 6999
  | .plain, code => code < 4000 ∨ 6999 < code

theorem RemoteClass.Covers.unique {kind other : RemoteClass} {code : Int} (covers : kind.Covers code)
    (also : other.Covers code) : kind = other := by
  cases kind <;> cases other <;> simp only [Covers] at covers also <;> first | rfl | omega

theorem RemoteClass.covers_ofCode (code : Int) : (ofCode code).Covers code := by
  simp only [ofCode, StatusCode.isClientError, StatusCode.isServerError, StatusCode.isCommandError,
    Bool.and_eq_true, decide_eq_true_eq]
  split
  next client => exact client
  next =>
    split
    next server => exact server
    next =>
      split
      next command => exact command
      next =>
        simp only [Covers]
        omega

theorem RemoteClass.ofCode_eq_iff {code : Int} {kind : RemoteClass} :
    ofCode code = kind ↔ kind.Covers code := by
  constructor
  · rintro rfl
    exact covers_ofCode code
  · exact (covers_ofCode code).unique

theorem RemoteClass.ofCode_of_isSuccess {code : Int} (success : StatusCode.isSuccess code = true) :
    ofCode code = .plain := by
  simp only [StatusCode.isSuccess, Bool.and_eq_true, decide_eq_true_eq] at success
  rw [ofCode_eq_iff, Covers]
  omega

namespace Envelope

variable {operation url detail : Bytes} {response : Json}

/-! ## What a response says -/

/-- A response reports success if it is an object whose status is just that word. -/
def ReportsSuccess (response : Json) : Prop :=
  response.isObject = true ∧ response.member? (utf8 "status") = some (.string (utf8 "Success"))

theorem isSuccess_iff : isSuccess response = true ↔ ReportsSuccess response := by
  have word : utf8 "Success" ≠ [] := by decide
  rw [isSuccess, ReportsSuccess, Bool.and_eq_true, decide_eq_true_iff, Json.text]
  refine and_congr_right fun _ => ?_
  split
  next status present => simp [present]
  next other =>
    simp only [word.symm, false_iff]
    exact other _

/-- The value inside an envelope: an empty object stands in for a result that is missing or null. -/
inductive Holds (response : Json) : (result : Json) → Prop
  | missing (absent : response.member? (utf8 "result") = none) : Holds response (.object [])
  | null (null : response.member? (utf8 "result") = some .null) : Holds response (.object [])
  | given {result : Json} (present : response.member? (utf8 "result") = some result)
      (nonnull : result ≠ .null) : Holds response result

theorem holds_result (response : Json) : Holds response (result response) := by
  rw [result]
  split
  next absent => exact .missing absent
  next null => exact .null null
  next result nonnull present => exact .given present nonnull

/-- The code that a response reports: what a signed 32-bit word keeps of an integer inside the result, and
zero if there is none. -/
inductive ReportsCode (response : Json) : (code : Int) → Prop
  | given {result : Json} {number code : Int}
      (present : response.member? (utf8 "result") = some result)
      (coded : result.member? (utf8 "code") = some (.integer number))
      (word : -2 ^ 31 ≤ code ∧ code < 2 ^ 31) (same : 2 ^ 32 ∣ number - code) :
      ReportsCode response code
  | uncoded (absent : ∀ result number, response.member? (utf8 "result") = some result →
      result.member? (utf8 "code") ≠ some (.integer number)) : ReportsCode response 0

theorem reportsCode_code (response : Json) : ReportsCode response (code response) := by
  rw [code]
  split
  next number coded =>
    obtain ⟨result, present, coded⟩ := Option.bind_eq_some_iff.mp coded
    have least := Int32.le_toInt (Int32.ofInt number)
    have most := Int32.toInt_lt (Int32.ofInt number)
    refine .given present coded ⟨least, most⟩ ?_
    rw [Int32.toInt_ofInt]
    exact Int.dvd_self_sub_bmod
  next uncoded =>
    refine .uncoded fun result number present coded => uncoded number ?_
    rw [present, Option.bind_some, coded]

theorem ReportsCode.unique {code other : Int} (reports : ReportsCode response code)
    (also : ReportsCode response other) : code = other := by
  cases reports with
  | given present coded word same =>
      cases also with
      | given present' coded' word' same' =>
          cases Option.some.inj (present.symm.trans present')
          cases Option.some.inj (coded.symm.trans coded')
          omega
      | uncoded absent => exact absurd coded (absent _ _ present)
  | uncoded absent =>
      cases also with
      | given present coded word same => exact absurd coded (absent _ _ present)
      | uncoded absent' => rfl

/-! ## What a response becomes -/

/-- The failure of a call whose response does not report success. -/
structure Rejects (operation url : Bytes) (response : Json) (failure : RemoteFailure) : Prop where
  operation_eq : failure.operation = operation
  url_eq : failure.url = url
  written : response.render = .ok failure.detail
  reported : ReportsCode response failure.code
  /-- The code alone names the class. -/
  kind_iff : ∀ kind, failure.kind = kind ↔ kind.Covers failure.code

/-- Success codes and zero stand for no failure of their own, and so they are plain failures here. -/
theorem rejection_eq (operation url detail : Bytes) (code : Int) :
    rejection operation url detail code =
      .remote { kind := .ofCode code, operation, url, detail, code } := by
  rw [rejection, failureOfCode?]
  split
  next harmless =>
    have plain : RemoteClass.ofCode code = .plain := by
      rw [Bool.or_eq_true, decide_eq_true_iff] at harmless
      rcases harmless with rfl | success
      · rfl
      · exact RemoteClass.ofCode_of_isSuccess success
    rw [plain]
    rfl
  next => rfl

/-- Every response whose texts are UTF-8 is either opened or rejected, and it is opened if and only if it
reports success. -/
theorem unwrap_sorts_responses (operation url : Bytes) {response : Json} (valid : response.IsUtf8) :
    (ReportsSuccess response →
      ∃ result, Holds response result ∧ unwrap operation url response = .ok result) ∧
    (¬ ReportsSuccess response →
      ∃ failure, Rejects operation url response failure ∧
        unwrap operation url response = .error (.remote failure)) := by
  constructor
  · intro success
    refine ⟨result response, holds_result response, ?_⟩
    rw [unwrap, if_pos (isSuccess_iff.mpr success)]
  · intro unsuccessful
    obtain ⟨detail, written, _⟩ := valid.isWritable
    have document : response.document = .ok detail := by rw [Json.document, written]
    refine ⟨{ kind := .ofCode (code response), operation, url, detail, code := code response },
      ⟨rfl, rfl, written, reportsCode_code response, fun kind => RemoteClass.ofCode_eq_iff⟩, ?_⟩
    rw [unwrap, if_neg (isSuccess_iff.not.mpr unsuccessful), document]
    exact congrArg Except.error (rejection_eq operation url detail (code response))

/-- A failure with a number of which a word keeps the code of a success. -/
theorem unwrap_sorts_responses_rehearsed :
    let response := Json.object [
      (utf8 "result", .object [(utf8 "code", .integer (2 ^ 32 + 2000))]),
      (utf8 "status", .string (utf8 "Failed"))]
    response.IsUtf8 ∧ ¬ ReportsSuccess response ∧
      ∃ failure, (failure.kind = .plain ∧ failure.code = 2000) ∧
        Rejects (utf8 "get status") (utf8 "http://sb") response failure ∧
        unwrap (utf8 "get status") (utf8 "http://sb") response = .error (.remote failure) := by
  intro response
  have valid : response.IsUtf8 := by
    refine .object (by decide) ?_
    simp only [List.forall_mem_cons]
    exact ⟨.object (by decide) (by simpa using Json.IsUtf8.integer _), .string (by decide), by simp⟩
  have unsuccessful : ¬ ReportsSuccess response := isSuccess_iff.not.mp (by decide)
  have coded : ReportsCode response 2000 := .given rfl rfl (by decide) (by decide)
  obtain ⟨failure, rejects, rejected⟩ :=
    (unwrap_sorts_responses (utf8 "get status") (utf8 "http://sb") valid).2 unsuccessful
  have code_eq : failure.code = 2000 := rejects.reported.unique coded
  have plain : failure.kind = .plain := by
    rw [rejects.kind_iff, code_eq]
    exact .inl (by decide)
  exact ⟨valid, unsuccessful, failure, ⟨plain, code_eq⟩, rejects, rejected⟩

end Envelope

end SandboxClient
