import SandboxClient.Proofs.Dictionary
import SandboxClient.Proofs.Json.Document
import SandboxClient.Proofs.Json.Number

/-!
# Reading results

Observations and command responses are read from any value whose texts are UTF-8, and what was read can be
written again.  Whether the command succeeded depends on the exit code alone.
-/

namespace SandboxClient

open Utf8 (isValid)

namespace Json

variable {value : Json} {key : Bytes}

theorem IsUtf8.member? (utf8 : value.IsUtf8) {member : Json} (found : value.member? key = some member) :
    member.IsUtf8 := by
  cases utf8 with
  | object keys values => exact values _ (Dictionary.mem_of_get?_eq_some found)
  | _ => cases found

theorem IsUtf8.document (utf8 : value.IsUtf8) :
    ∃ text, value.document = .ok text ∧ isValid text = true := by
  obtain ⟨text, written, valid⟩ := utf8.isWritable
  exact ⟨text, by rw [Json.document, written], valid⟩

theorem isUtf8_of_document {text : Bytes} (written : value.document = .ok text) : value.IsUtf8 := by
  rw [Json.document] at written
  split at written
  next text rendered => exact isUtf8_of_render rendered
  next => cases written

theorem IsUtf8.textField (utf8 : value.IsUtf8) (key : Bytes) :
    ∃ text, value.textField key = .ok text ∧ isValid text = true := by
  rw [Json.textField]
  split
  next => exact ⟨[], rfl, rfl⟩
  next => exact ⟨[], rfl, rfl⟩
  next text found =>
    cases utf8.member? found with
    | string valid => exact ⟨text, rfl, valid⟩
  next other _ _ found => exact (utf8.member? found).document

/-- The value has an exit code that is read as zero: the number zero, or one that fades to it. -/
def ReadsAsZero (value : Json) : Prop :=
  ∃ code, value.member? (utf8 "exit_code") = some code ∧
    (code.number? = some 0 ∨ code.FadesToZero)

theorem int32Field?_eq_some_zero_iff :
    value.int32Field? (utf8 "exit_code") = some 0 ↔ value.ReadsAsZero := by
  simp only [int32Field?, Option.bind_eq_some_iff, toInt32?_eq_some_zero_iff, ReadsAsZero]

theorem member?_of_not_isObject (other : ¬ value.isObject = true) : value.member? key = none := by
  cases value with
  | object members => exact (other rfl).elim
  | _ => rfl

end Json

variable {value : Json}

theorem Observation.exitCode?_of_ofJson {observation : Observation}
    (read : Observation.ofJson value = .ok observation) :
    observation.exitCode? = value.int32Field? (utf8 "exit_code") := by
  rw [Observation.ofJson] at read
  split at read
  next =>
    obtain ⟨_, _, read⟩ := Except.exists_of_bind_eq_ok read
    obtain ⟨_, _, read⟩ := Except.exists_of_bind_eq_ok read
    obtain ⟨_, _, read⟩ := Except.exists_of_bind_eq_ok read
    cases read
    rfl
  next other =>
    cases read
    rw [Json.int32Field?, Json.member?_of_not_isObject other]
    rfl

theorem Observation.succeeded_iff_of_ofJson {observation : Observation}
    (read : Observation.ofJson value = .ok observation) :
    observation.succeeded = true ↔ value.ReadsAsZero := by
  rw [succeeded, decide_eq_true_iff, exitCode?_of_ofJson read, Json.int32Field?_eq_some_zero_iff]

theorem Observation.ofJson_of_isUtf8 (valid : value.IsUtf8) :
    ∃ observation, Observation.ofJson value = .ok observation := by
  obtain ⟨output, outputRead, _⟩ := valid.textField (utf8 "output")
  obtain ⟨reason, reasonRead, _⟩ := valid.textField (utf8 "failure_reason")
  obtain ⟨expected, expectedRead, _⟩ := valid.textField (utf8 "expect_string")
  rw [Observation.ofJson, outputRead, reasonRead, expectedRead]
  split <;> exact ⟨_, rfl⟩

theorem CommandResponse.exitCode?_of_ofJson {response : CommandResponse}
    (read : CommandResponse.ofJson value = .ok response) :
    response.exitCode? = value.int32Field? (utf8 "exit_code") := by
  rw [CommandResponse.ofJson] at read
  split at read
  next =>
    obtain ⟨_, _, read⟩ := Except.exists_of_bind_eq_ok read
    obtain ⟨_, _, read⟩ := Except.exists_of_bind_eq_ok read
    cases read
    rfl
  next other =>
    cases read
    rw [Json.int32Field?, Json.member?_of_not_isObject other]
    rfl

theorem CommandResponse.succeeded_iff_of_ofJson {response : CommandResponse}
    (read : CommandResponse.ofJson value = .ok response) :
    response.succeeded = true ↔ value.ReadsAsZero := by
  rw [succeeded, decide_eq_true_iff, exitCode?_of_ofJson read, Json.int32Field?_eq_some_zero_iff]

theorem CommandResponse.document_toJson (response : CommandResponse)
    (output : isValid response.standardOutput = true) (error : isValid response.standardError = true) :
    ∃ text, response.toJson.document = .ok text := by
  have code : (Json.ofExitCode response.exitCode?).IsUtf8 := by
    cases response.exitCode? with
    | none => exact .null
    | some code => exact .integer code.toInt
  have whole : response.toJson.IsUtf8 := by
    refine .object ?_ ?_
    · simp only [List.forall_mem_cons]
      decide
    · simp only [List.forall_mem_cons]
      exact ⟨code, .string error, .string output, by simp⟩
  obtain ⟨text, written, _⟩ := whole.document
  exact ⟨text, written⟩

/-- A response is read from every value whose texts are UTF-8, and has a document. -/
theorem CommandResponse.ofJson_of_isUtf8 (valid : value.IsUtf8) :
    ∃ response, CommandResponse.ofJson value = .ok response ∧
      ∃ text, response.toJson.document = .ok text := by
  obtain ⟨output, outputRead, outputValid⟩ := valid.textField (utf8 "stdout")
  obtain ⟨error, errorRead, errorValid⟩ := valid.textField (utf8 "stderr")
  rw [CommandResponse.ofJson, outputRead, errorRead]
  split
  next => exact ⟨_, rfl, document_toJson _ outputValid errorValid⟩
  next => exact ⟨_, rfl, document_toJson {} rfl rfl⟩

end SandboxClient
