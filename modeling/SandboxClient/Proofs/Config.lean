import SandboxClient.Config
import SandboxClient.Proofs.Json.Number

/-!
# Configurations that are accepted

A configuration is accepted exactly if every parameter is within its bounds, with one exception: the number
of processors is refused if it compares as at most zero, and a value that is not a number compares as
nothing.  Whatever is refused is refused as a bad parameter.
-/

namespace SandboxClient

namespace Binary64

/-- A double above zero: a positive number or infinity. -/
def IsPositive (value : Binary64) : Prop :=
  value = .infinite false ∨ ∃ number, value.number? = some number ∧ 0 < number

/-- A double that is not a number. -/
def IsNaN (value : Binary64) : Prop :=
  ∃ negative, value = .nan negative

theorem isAtMostZero_eq_false_iff {value : Binary64} :
    value.isAtMostZero = false ↔ value.IsPositive ∨ value.IsNaN := by
  cases value with
  | nan negative => simp [isAtMostZero, IsNaN]
  | infinite negative => simp [isAtMostZero, IsPositive, IsNaN, number?]
  | finite negative mantissa exponent =>
      have unit : (0 : ℚ) < 2 ^ exponent := by positivity
      cases negative with
      | true =>
          have magnitude : (0 : ℚ) ≤ mantissa * 2 ^ exponent := by positivity
          simp [isAtMostZero, IsPositive, IsNaN, number?, magnitude]
      | false => simp [isAtMostZero, IsPositive, IsNaN, number?, unit, Nat.pos_iff_ne_zero]

end Binary64

/-- A check passes what has a property, and refuses anything else as a bad parameter. -/
def Checks (verdict : Except Error Unit) (property : Prop) : Prop :=
  (verdict = .ok () ∧ property) ∨
    ((∃ message, verdict = .error (.invalidParameter message)) ∧ ¬ property)

namespace Checks

variable {verdict : Except Error Unit} {property : Prop}

theorem eq_ok_iff (checks : Checks verdict property) : verdict = .ok () ↔ property := by
  rcases checks with ⟨passes, holds⟩ | ⟨⟨_, refused⟩, fails⟩
  · exact iff_of_true passes holds
  · exact iff_of_false (by simp [refused]) fails

theorem refused (checks : Checks verdict property) (fails : ¬ property) :
    ∃ message, verdict = .error (.invalidParameter message) := by
  rcases checks with ⟨_, holds⟩ | ⟨refused, _⟩
  · exact absurd holds fails
  · exact refused

end Checks

/-! ## One sandbox -/

/-- A configuration within its bounds, whose number of processors may also be no number. -/
structure SandboxConfig.Accepted (config : SandboxConfig) : Prop where
  baseUrl : config.baseUrl ≠ []
  image : config.image ≠ []
  startupTimeout : 0 < config.startupTimeout
  autoClearSeconds : 0 ≤ config.autoClearSeconds
  cpus : config.cpus.IsPositive ∨ config.cpus.IsNaN

theorem SandboxConfig.checks_validate (config : SandboxConfig) :
    Checks config.validate config.Accepted := by
  rw [validate]
  split
  next missing =>
    exact .inr ⟨⟨_, rfl⟩, fun accepted => accepted.baseUrl (List.isEmpty_iff.mp missing)⟩
  split
  next missing =>
    exact .inr ⟨⟨_, rfl⟩, fun accepted => accepted.image (List.isEmpty_iff.mp missing)⟩
  split
  next late => exact .inr ⟨⟨_, rfl⟩, fun accepted => Int.not_le.mpr accepted.startupTimeout late⟩
  split
  next negative =>
    exact .inr ⟨⟨_, rfl⟩, fun accepted => Int.not_lt.mpr accepted.autoClearSeconds negative⟩
  split
  next low =>
    refine .inr ⟨⟨_, rfl⟩, fun accepted => ?_⟩
    rw [Binary64.isAtMostZero_eq_false_iff.mpr accepted.cpus] at low
    cases low
  next baseUrl image late negative low =>
    refine .inl ⟨rfl, ?_⟩
    exact {
      baseUrl := by simpa using baseUrl
      image := by simpa using image
      startupTimeout := Int.not_le.mp late
      autoClearSeconds := Int.not_lt.mp negative
      cpus := Binary64.isAtMostZero_eq_false_iff.mp (Bool.eq_false_of_not_eq_true low) }

/-! ## A group -/

/-- The configuration of a group within its bounds, with such a template. -/
structure GroupConfig.Accepted (config : GroupConfig) : Prop where
  sandbox : config.sandbox.Accepted
  size : 0 ≤ config.size
  startConcurrency : 1 ≤ config.startConcurrency
  startRetryTimes : 1 ≤ config.startRetryTimes

theorem GroupConfig.checks_validate (config : GroupConfig) :
    Checks config.validate config.Accepted := by
  rcases config.sandbox.checks_validate with ⟨valid, template⟩ | ⟨⟨message, refused⟩, unaccepted⟩
  · have bounds : config.validate =
        if config.size < 0 then
          .error (boundFault (utf8 "size") (utf8 ">= 0") (Text.integer config.size))
        else if config.startConcurrency < 1 then
          .error (boundFault (utf8 "start_concurrency") (utf8 ">= 1")
            (Text.integer config.startConcurrency))
        else if config.startRetryTimes < 1 then
          .error (boundFault (utf8 "start_retry_times") (utf8 ">= 1")
            (Text.integer config.startRetryTimes))
        else .ok () := by
      rw [validate, valid]
      rfl
    rw [bounds]
    split
    next negative => exact .inr ⟨⟨_, rfl⟩, fun accepted => Int.not_lt.mpr accepted.size negative⟩
    split
    next none_ =>
      exact .inr ⟨⟨_, rfl⟩, fun accepted => Int.not_lt.mpr accepted.startConcurrency none_⟩
    split
    next none_ =>
      exact .inr ⟨⟨_, rfl⟩, fun accepted => Int.not_lt.mpr accepted.startRetryTimes none_⟩
    next size concurrency retries =>
      exact .inl ⟨rfl, template, Int.not_lt.mp size, Int.not_lt.mp concurrency, Int.not_lt.mp retries⟩
  · refine .inr ⟨⟨message, ?_⟩, fun accepted => unaccepted accepted.sandbox⟩
    rw [validate, refused]
    rfl

end SandboxClient
