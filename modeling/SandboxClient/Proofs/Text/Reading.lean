import Mathlib.Data.Nat.Digits.Defs
import SandboxClient.Text

/-!
# Reading texts back

Cutting a leading part off a text, finding a part in it, cutting a text into lines, and reading a decimal
numeral: the digits of a number denote it.
-/

namespace SandboxClient

namespace Text

/-! ## Leading parts -/

theorem dropPrefix?_eq_some_iff {start text rest : Bytes} :
    dropPrefix? start text = some rest ↔ text = start ++ rest := by
  induction start generalizing text with
  | nil => simp [dropPrefix?, eq_comm]
  | cons first start ih =>
      cases text with
      | nil => simp [dropPrefix?]
      | cons byte text =>
          by_cases same : first = byte
          · simp [dropPrefix?, same, ih]
          · simp [dropPrefix?, same, Ne.symm same]

theorem dropPrefix?_append (start rest : Bytes) : dropPrefix? start (start ++ rest) = some rest :=
  dropPrefix?_eq_some_iff.mpr rfl

theorem startsWith_append (start rest : Bytes) : startsWith start (start ++ rest) = true := by
  rw [startsWith, dropPrefix?_append]
  rfl

theorem mem_of_mem_splitOn {separator byte : UInt8} {text piece : Bytes}
    (listed : piece ∈ splitOn separator text) (inside : byte ∈ piece) : byte ∈ text := by
  induction text generalizing piece with
  | nil =>
      rw [splitOn, List.mem_singleton] at listed
      rw [listed] at inside
      exact inside
  | cons first rest ih =>
      rw [splitOn] at listed
      split at listed
      next =>
        rcases List.mem_cons.mp listed with rfl | later
        · cases inside
        · exact .tail _ (ih later inside)
      next =>
        split at listed
        next =>
          obtain rfl := List.mem_singleton.mp listed
          obtain rfl := List.mem_singleton.mp inside
          exact .head _
        next start pieces rest_eq =>
          rw [rest_eq] at ih
          rcases List.mem_cons.mp listed with rfl | later
          · rcases List.mem_cons.mp inside with rfl | inside
            · exact .head _
            · exact .tail _ (ih (.head _) inside)
          · exact .tail _ (ih (.tail _ later) inside)

theorem mem_of_mem_lines {byte : UInt8} {text line : Bytes} (listed : line ∈ lines text)
    (inside : byte ∈ line) : byte ∈ text := by
  rw [lines] at listed
  split at listed
  next => exact mem_of_mem_splitOn ((List.dropLast_sublist _).subset listed) inside
  next => exact mem_of_mem_splitOn listed inside

/-! ## Decimal numerals -/

/-- The number that digits denote in base ten, the last one counting least. -/
def denoted (digits : Bytes) : Nat :=
  Nat.ofDigits 10 (digits.reverse.map digitValue)

/-- Reading digits one by one from the left comes to the number they denote. -/
theorem numeralValue_eq_denoted (digits : Bytes) : numeralValue digits = denoted digits := by
  rw [numeralValue, denoted, Nat.ofDigits_eq_foldr, List.foldr_map, List.foldr_reverse]
  congr 1
  funext value digit
  exact Nat.add_comm (10 * value) (digitValue digit)

theorem toNat_digitOf {value : Nat} (small : value < 10) : (digitOf value).toNat = 48 + value := by
  rw [digitOf, UInt8.toNat_ofNat']
  omega

theorem isDigit_digitOf {value : Nat} (small : value < 10) : isDigit (digitOf value) = true := by
  have code := toNat_digitOf small
  have least : 48 ≤ digitOf value := by
    rw [UInt8.le_iff_toNat_le, code]
    exact Nat.le_add_right 48 value
  have most : digitOf value ≤ 57 := by
    rw [UInt8.le_iff_toNat_le, code]
    show 48 + value ≤ 57
    omega
  simp [isDigit, least, most]

theorem numeralValue_append_digit (digits : Bytes) {value : Nat} (small : value < 10) :
    numeralValue (digits ++ [digitOf value]) = 10 * numeralValue digits + value := by
  have code := toNat_digitOf small
  simp only [numeralValue, List.foldl_append, List.foldl_cons, List.foldl_nil, digitValue]
  omega

theorem decimal_ne_nil (value : Nat) : decimal value ≠ [] := by
  rw [decimal]
  split <;> simp

theorem isDigit_of_mem_decimal {value : Nat} {byte : UInt8} (member : byte ∈ decimal value) :
    isDigit byte = true := by
  induction value using decimal.induct with
  | case1 value small =>
      rw [decimal, if_pos small, List.mem_singleton] at member
      rw [member]
      exact isDigit_digitOf small
  | case2 value large ih =>
      rw [decimal, if_neg large, List.mem_append, List.mem_singleton] at member
      rcases member with early | rfl
      · exact ih early
      · exact isDigit_digitOf (Nat.mod_lt value (by decide))

/-- The decimal numeral of a number denotes the number. -/
theorem numeralValue_decimal (value : Nat) : numeralValue (decimal value) = value := by
  induction value using decimal.induct with
  | case1 value small =>
      have lone := numeralValue_append_digit [] small
      rw [decimal, if_pos small]
      simpa [numeralValue] using lone
  | case2 value large ih =>
      have last : value % 10 < 10 := Nat.mod_lt value (by decide)
      rw [decimal, if_neg large, numeralValue_append_digit _ last, ih]
      omega

end Text

end SandboxClient
