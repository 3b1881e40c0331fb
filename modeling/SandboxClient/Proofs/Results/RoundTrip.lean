import SandboxClient.Proofs.Results

/-!
# Results that are written and read

A result that was written is read as it was.  So reading a value and writing what was read settles its
form: members of other types than text have become their documents, missing members are there and numbers
are 32-bit integers.  To do it again changes nothing.
-/

namespace SandboxClient

open Utf8 (isValid)

namespace Json

variable {value : Json} {key : Bytes}

theorem textField_of_string {text : Bytes} (found : value.member? key = some (.string text)) :
    value.textField key = .ok text := by
  rw [textField, found]

theorem int32Field?_of_ofExitCode {code? : Option Int32}
    (found : value.member? key = some (.ofExitCode code?)) : value.int32Field? key = code? := by
  rw [int32Field?, found, Option.bind_some]
  cases code? with
  | none => rfl
  | some code => exact congrArg some (Int32.ofInt_toInt code)

theorem isUtf8_ofExitCode (code? : Option Int32) : (ofExitCode code?).IsUtf8 := by
  cases code? with
  | none => exact .null
  | some code => exact .integer code.toInt

/-- What is written of the result that is read from a value. -/
def rewritten {Result : Type} (read : Json → Except Error Result) (write : Result → Json)
    (value : Json) : Except Error Json :=
  (read value).map write

/-- Where reading undoes writing, a value that was written again is not changed by writing it once more. -/
theorem rewritten_settles {Result : Type} {read : Json → Except Error Result} {write : Result → Json}
    (undoes : ∀ result, read (write result) = .ok result)
    (reads : ∃ result, read value = .ok result ∧ (write result).IsUtf8) :
    ∃ normal, rewritten read write value = .ok normal ∧ normal.IsUtf8 ∧
      rewritten read write normal = .ok normal := by
  obtain ⟨result, result_eq, written⟩ := reads
  refine ⟨write result, ?_, written, ?_⟩
  · rw [rewritten, result_eq]
    rfl
  · rw [rewritten, undoes]
    rfl

end Json

/-! ## Observations -/

theorem Observation.ofJson_toJson (observation : Observation) :
    Observation.ofJson observation.toJson = .ok observation := by
  have output : observation.toJson.textField (utf8 "output") = .ok observation.output :=
    Json.textField_of_string rfl
  have code : observation.toJson.int32Field? (utf8 "exit_code") = observation.exitCode? :=
    Json.int32Field?_of_ofExitCode rfl
  have reason : observation.toJson.textField (utf8 "failure_reason") = .ok observation.failureReason :=
    Json.textField_of_string rfl
  have expected : observation.toJson.textField (utf8 "expect_string") = .ok observation.expectString :=
    Json.textField_of_string rfl
  rw [ofJson, output, code, reason, expected]
  rfl

theorem Observation.isUtf8_toJson {observation : Observation}
    (output : isValid observation.output = true) (reason : isValid observation.failureReason = true)
    (expected : isValid observation.expectString = true) : observation.toJson.IsUtf8 := by
  refine .object ?_ ?_
  · simp only [List.forall_mem_cons]
    decide
  · simp only [List.forall_mem_cons]
    exact ⟨Json.isUtf8_ofExitCode _, .string expected, .string reason, .string output, by simp⟩

/-- An observation is read from every value whose texts are UTF-8, and its own texts are UTF-8 too. -/
theorem Observation.exists_of_isUtf8 {value : Json} (valid : value.IsUtf8) :
    ∃ observation, Observation.ofJson value = .ok observation ∧ observation.toJson.IsUtf8 := by
  obtain ⟨output, outputRead, outputValid⟩ := valid.textField (utf8 "output")
  obtain ⟨reason, reasonRead, reasonValid⟩ := valid.textField (utf8 "failure_reason")
  obtain ⟨expected, expectedRead, expectedValid⟩ := valid.textField (utf8 "expect_string")
  rw [ofJson, outputRead, reasonRead, expectedRead]
  split
  next => exact ⟨_, rfl, isUtf8_toJson outputValid reasonValid expectedValid⟩
  next => exact ⟨_, rfl, isUtf8_toJson rfl rfl rfl⟩

/-! ## Command responses -/

theorem CommandResponse.ofJson_toJson (response : CommandResponse) :
    CommandResponse.ofJson response.toJson = .ok response := by
  have output : response.toJson.textField (utf8 "stdout") = .ok response.standardOutput :=
    Json.textField_of_string rfl
  have error : response.toJson.textField (utf8 "stderr") = .ok response.standardError :=
    Json.textField_of_string rfl
  have code : response.toJson.int32Field? (utf8 "exit_code") = response.exitCode? :=
    Json.int32Field?_of_ofExitCode rfl
  rw [ofJson, output, error, code]
  rfl

theorem CommandResponse.exists_of_isUtf8 {value : Json} (valid : value.IsUtf8) :
    ∃ response, CommandResponse.ofJson value = .ok response ∧ response.toJson.IsUtf8 := by
  obtain ⟨response, read, _, written⟩ := ofJson_of_isUtf8 valid
  exact ⟨response, read, Json.isUtf8_of_document written⟩

/-! ## Both -/

/-- Observations and responses of any texts and any exit code are read as they were written.  From every
value whose texts are UTF-8, whatever its shape, both are read, and what is written of them is a value of
that kind which stays as it is when it is read and written again. -/
theorem results_survive_wire :
    (∀ observation, Observation.ofJson (Observation.toJson observation) = .ok observation) ∧
      (∀ response, CommandResponse.ofJson (CommandResponse.toJson response) = .ok response) ∧
      ∀ value : Json, value.IsUtf8 →
        (∃ normal, Json.rewritten Observation.ofJson Observation.toJson value = .ok normal ∧
          normal.IsUtf8 ∧ Json.rewritten Observation.ofJson Observation.toJson normal = .ok normal) ∧
        ∃ normal, Json.rewritten CommandResponse.ofJson CommandResponse.toJson value = .ok normal ∧
          normal.IsUtf8 ∧
          Json.rewritten CommandResponse.ofJson CommandResponse.toJson normal = .ok normal := by
  refine ⟨Observation.ofJson_toJson, CommandResponse.ofJson_toJson, fun value valid => ⟨?_, ?_⟩⟩
  · exact Json.rewritten_settles Observation.ofJson_toJson (Observation.exists_of_isUtf8 valid)
  · exact Json.rewritten_settles CommandResponse.ofJson_toJson (CommandResponse.exists_of_isUtf8 valid)

/-- An exit code beyond 32 bits, an output and an error that are no texts, and nothing else.  What is
written has the code that fits and their documents, and empty texts for the rest. -/
theorem results_survive_wire_rehearsed :
    let value : Json := .object [
      (utf8 "exit_code", .integer (2 ^ 32 + 7)),
      (utf8 "output", .array [.double (.finite false 5 (-1)), .object [(utf8 "é", .null)]]),
      (utf8 "stderr", .boolean true)]
    let observed : Json := .object [
      (utf8 "exit_code", .integer 7), (utf8 "expect_string", .string []),
      (utf8 "failure_reason", .string []), (utf8 "output", .string (utf8 "[2.5,\x7b\"é\":null\x7d]"))]
    let responded : Json := .object [
      (utf8 "exit_code", .integer 7), (utf8 "stderr", .string (utf8 "true")), (utf8 "stdout", .string [])]
    value.IsUtf8 ∧ Json.rewritten Observation.ofJson Observation.toJson value = .ok observed ∧
      Json.rewritten Observation.ofJson Observation.toJson observed = .ok observed ∧
      Json.rewritten CommandResponse.ofJson CommandResponse.toJson value = .ok responded ∧
      Json.rewritten CommandResponse.ofJson CommandResponse.toJson responded = .ok responded := by
  intro value observed responded
  have nested : (Json.object [(utf8 "é", .null)]).IsUtf8 := by
    refine .object ?_ ?_
    · simp only [List.forall_mem_cons]
      decide
    · simpa using Json.IsUtf8.null
  have output : (Json.array [.double (.finite false 5 (-1)), .object [(utf8 "é", .null)]]).IsUtf8 := by
    refine .array ?_
    simp only [List.forall_mem_cons]
    exact ⟨.double _, nested, by simp⟩
  have valid : value.IsUtf8 := by
    refine .object ?_ ?_
    · simp only [List.forall_mem_cons]
      decide
    · simp only [List.forall_mem_cons]
      exact ⟨.integer _, output, .boolean true, by simp⟩
  have observedOf : Json.rewritten Observation.ofJson Observation.toJson value = .ok observed := by
    with_unfolding_all rfl
  have respondedOf : Json.rewritten CommandResponse.ofJson CommandResponse.toJson value =
      .ok responded := by
    rfl
  obtain ⟨_, _, settles⟩ := results_survive_wire
  obtain ⟨⟨first, first_eq, _, observes⟩, second, second_eq, _, responds⟩ := settles value valid
  obtain rfl : observed = first := by simpa [observedOf] using first_eq
  obtain rfl : responded = second := by simpa [respondedOf] using second_eq
  exact ⟨valid, observedOf, observes, respondedOf, responds⟩

end SandboxClient
