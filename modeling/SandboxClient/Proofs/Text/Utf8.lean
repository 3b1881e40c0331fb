import SandboxClient.Text.Utf8
import SandboxClient.Proofs.Text.Reading

/-!
# Texts that are UTF-8

A text is UTF-8 if the machine that checks it takes every byte and owes nothing at the end.  Putting such
texts one after the other, and writing a byte of ASCII as other bytes of ASCII, leads to such texts again.
-/

namespace SandboxClient

namespace Utf8

/-- Whether the rest of a text meets an expectation: each byte is possible and nothing is owed at the end. -/
def Expectation.Met : Expectation → Bytes → Prop
  | expectation, [] => expectation.owed = 0
  | expectation, byte :: text => ∃ next, expectation.step byte = some next ∧ next.Met text

theorem faultFrom_eq_none_iff {index : Nat} {expectation : Expectation} {last : UInt8} {text : Bytes} :
    faultFrom index expectation last text = none ↔ expectation.Met text := by
  induction text generalizing index expectation last with
  | nil => simp [faultFrom, Expectation.Met]
  | cons byte text ih =>
      rw [faultFrom, Expectation.Met]
      cases expectation.step byte with
      | none => simp
      | some next => simp [ih]

theorem isValid_iff {text : Bytes} : isValid text = true ↔ Expectation.none.Met text := by
  rw [isValid, Option.isNone_iff_eq_none, fault?, faultFrom_eq_none_iff]

theorem fault?_eq_none_iff {text : Bytes} : fault? text = none ↔ isValid text = true := by
  rw [isValid, Option.isNone_iff_eq_none]

/-! ## Texts in a row -/

theorem Expectation.step_of_owed_eq_zero {expectation : Expectation} (nothing : expectation.owed = 0)
    (byte : UInt8) : expectation.step byte = afterLead byte := by
  rw [Expectation.step, nothing]

/-- Where nothing is owed, any text that is UTF-8 may follow. -/
theorem Expectation.met_of_owed_eq_zero {expectation : Expectation} {text : Bytes}
    (nothing : expectation.owed = 0) (valid : Expectation.none.Met text) : expectation.Met text := by
  cases text with
  | nil => exact nothing
  | cons byte text =>
      obtain ⟨next, stepped, met⟩ := valid
      rw [step_of_owed_eq_zero rfl] at stepped
      exact ⟨next, by rw [step_of_owed_eq_zero nothing, stepped], met⟩

theorem Expectation.Met.append {expectation : Expectation} {first second : Bytes}
    (met : expectation.Met first) (valid : Expectation.none.Met second) :
    expectation.Met (first ++ second) := by
  induction first generalizing expectation with
  | nil => exact met_of_owed_eq_zero met valid
  | cons byte first ih =>
      obtain ⟨next, stepped, rest⟩ := met
      exact ⟨next, stepped, ih rest⟩

@[simp]
theorem isValid_nil : isValid [] = true :=
  rfl

theorem isValid_append {first second : Bytes} (valid : isValid first = true)
    (also : isValid second = true) : isValid (first ++ second) = true :=
  isValid_iff.mpr ((isValid_iff.mp valid).append (isValid_iff.mp also))

theorem isValid_joinWith {separator : Bytes} {texts : List Bytes} (between : isValid separator = true)
    (valid : ∀ text ∈ texts, isValid text = true) :
    isValid (Text.joinWith separator texts) = true := by
  induction texts using Text.joinWith.induct with
  | case1 => rfl
  | case2 text => exact valid text (by simp)
  | case3 text next rest ih =>
      have own : isValid text = true := valid text (by simp)
      have later : isValid (Text.joinWith separator (next :: rest)) = true :=
        ih fun text member => valid text (by simp [member])
      exact isValid_append (isValid_append own between) later

/-! ## ASCII -/

/-- Whether each byte of a text is a character of its own. -/
def IsAscii (text : Bytes) : Prop :=
  ∀ byte ∈ text, byte ≤ 0x7F

instance (text : Bytes) : Decidable (IsAscii text) :=
  List.decidableBAll (· ≤ 0x7F) text

theorem IsAscii.append {first second : Bytes} (ascii : IsAscii first) (also : IsAscii second) :
    IsAscii (first ++ second) := by
  intro byte member
  rcases List.mem_append.mp member with early | late
  · exact ascii byte early
  · exact also byte late

theorem IsAscii.of_sublist {part text : Bytes} (ascii : IsAscii text) (sublist : part.Sublist text) :
    IsAscii part :=
  fun byte member => ascii byte (sublist.subset member)

theorem IsAscii.met {text : Bytes} (ascii : IsAscii text) : Expectation.none.Met text := by
  induction text with
  | nil => rfl
  | cons byte text ih =>
      have low : byte ≤ 0x7F := ascii byte (by simp)
      refine ⟨.none, ?_, ih fun byte member => ascii byte (by simp [member])⟩
      rw [Expectation.step_of_owed_eq_zero rfl, afterLead, if_pos low]

theorem IsAscii.isValid {text : Bytes} (ascii : IsAscii text) : isValid text = true :=
  isValid_iff.mpr ascii.met

theorem isAscii_of_isDigit {text : Bytes} (digits : ∀ byte ∈ text, Text.isDigit byte = true) :
    IsAscii text := by
  intro byte member
  have digit := digits byte member
  simp only [Text.isDigit, Bool.and_eq_true, decide_eq_true_eq] at digit
  exact UInt8.le_trans digit.2 (by decide)

theorem isAscii_decimal (value : Nat) : IsAscii (Text.decimal value) :=
  isAscii_of_isDigit fun _ => Text.isDigit_of_mem_decimal

theorem isAscii_integer (value : Int) : IsAscii (Text.integer value) := by
  cases value with
  | ofNat value => exact isAscii_decimal value
  | negSucc value => exact IsAscii.append (by decide) (isAscii_decimal (value + 1))

/-! ## Other ways of writing ASCII -/

/-- An expectation that a byte of ASCII can meet only where nothing is owed. -/
def Expectation.IsProper (expectation : Expectation) : Prop :=
  expectation.owed = 0 ∨ 0x80 ≤ expectation.low

theorem isProper_of_afterLead {byte : UInt8} {next : Expectation}
    (stepped : afterLead byte = some next) : next.IsProper := by
  simp only [afterLead] at stepped
  repeat' split at stepped
  all_goals cases stepped
  all_goals exact .inr (by decide)

theorem Expectation.isProper_of_step {expectation next : Expectation} {byte : UInt8}
    (stepped : expectation.step byte = some next) : next.IsProper := by
  rw [Expectation.step] at stepped
  split at stepped
  next => exact isProper_of_afterLead stepped
  next =>
    split at stepped
    next =>
      cases stepped
      exact .inr (UInt8.le_refl 0x80)
    next => cases stepped

theorem Expectation.IsProper.step_ascii {expectation next : Expectation} {byte : UInt8}
    (proper : expectation.IsProper) (low : byte ≤ 0x7F) (stepped : expectation.step byte = some next) :
    expectation.owed = 0 ∧ next = .none := by
  have nothing : expectation.owed = 0 := by
    rcases proper with nothing | high
    · exact nothing
    · cases owed_eq : expectation.owed with
      | zero => rfl
      | succ owed =>
          simp only [Expectation.step, owed_eq, Option.ite_none_right_eq_some, Bool.and_eq_true,
            decide_eq_true_eq] at stepped
          have possible : expectation.low ≤ byte := stepped.1.1
          exact absurd (UInt8.le_trans high (UInt8.le_trans possible low)) (by decide)
  rw [step_of_owed_eq_zero nothing, afterLead, if_pos low] at stepped
  exact ⟨nothing, (Option.some.inj stepped).symm⟩

/-- Writing each byte as a text of its own keeps a text UTF-8, if bytes of ASCII are written in ASCII and
all others as they are. -/
theorem Expectation.Met.flatMap {write : UInt8 → Bytes}
    (ascii : ∀ byte, byte ≤ 0x7F → IsAscii (write byte))
    (same : ∀ byte, ¬ byte ≤ 0x7F → write byte = [byte]) {expectation : Expectation} {text : Bytes}
    (proper : expectation.IsProper) (met : expectation.Met text) :
    expectation.Met (text.flatMap write) := by
  induction text generalizing expectation with
  | nil => exact met
  | cons byte text ih =>
      obtain ⟨next, stepped, rest⟩ := met
      have later : next.Met (text.flatMap write) := ih (isProper_of_step stepped) rest
      rw [List.flatMap_cons]
      by_cases low : byte ≤ 0x7F
      · -- a byte of ASCII is a whole character, so nothing is owed before it and nothing after it
        obtain ⟨nothing, rfl⟩ := proper.step_ascii low stepped
        exact (met_of_owed_eq_zero nothing (ascii byte low).met).append later
      · rw [same byte low]
        exact ⟨next, stepped, later⟩

theorem isValid_flatMap {write : UInt8 → Bytes} {text : Bytes}
    (ascii : ∀ byte, byte ≤ 0x7F → IsAscii (write byte))
    (same : ∀ byte, ¬ byte ≤ 0x7F → write byte = [byte]) (valid : isValid text = true) :
    isValid (text.flatMap write) = true :=
  isValid_iff.mpr ((isValid_iff.mp valid).flatMap ascii same (.inl rfl))

end Utf8

end SandboxClient
