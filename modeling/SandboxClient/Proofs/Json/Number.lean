import Mathlib.Algebra.Order.Field.Power
import Mathlib.Algebra.Order.Field.Rat
import Mathlib.Tactic.NormNum
import Mathlib.Tactic.Positivity
import SandboxClient.Json.Basic

/-!
# Numbers as 32-bit words

The conversion of a JSON number to a 32-bit word drops the fraction of a double and the multiples of
`2 ^ 32` of an integer.  What is left may be zero although the number is not: this file says exactly when.
-/

namespace SandboxClient

namespace Binary64

/-- The exact value of a double, if it is finite. -/
def number? : Binary64 → Option ℚ
  | .finite negative mantissa exponent =>
    some (if negative then -(mantissa * 2 ^ exponent) else mantissa * 2 ^ exponent)
  | _ => none

theorem numerator_div_denominator (mantissa : Nat) (exponent : Int) :
    (numerator mantissa exponent : ℚ) / denominator exponent = mantissa * 2 ^ exponent := by
  rw [numerator, denominator]
  rcases Int.le_total 0 exponent with whole | fraction
  · obtain ⟨power, rfl⟩ := Int.eq_ofNat_of_zero_le whole
    simp
  · obtain ⟨power, power_eq⟩ := Int.exists_eq_neg_ofNat fraction
    subst power_eq
    simp [zpow_neg, div_eq_mul_inv]

theorem denominator_pos (exponent : Int) : 0 < denominator exponent :=
  Nat.two_pow_pos _

theorem signed_eq_zero_iff {negative : Bool} {magnitude : Nat} :
    signed negative magnitude = 0 ↔ magnitude = 0 := by
  cases negative <;> simp [signed]

theorem abs_of_number? {negative : Bool} {mantissa : Nat} {exponent : Int} {number : ℚ}
    (exact : (finite negative mantissa exponent).number? = some number) :
    |number| = mantissa * 2 ^ exponent := by
  have magnitude : (0 : ℚ) ≤ mantissa * 2 ^ exponent := by positivity
  cases exact
  split
  · rw [abs_neg, abs_of_nonneg magnitude]
  · rw [abs_of_nonneg magnitude]

/-- A double that is nothing but its fraction lies between minus one and one. -/
theorem truncate?_eq_some_zero_iff {value : Binary64} :
    value.truncate? = some 0 ↔ ∃ number, value.number? = some number ∧ |number| < 1 := by
  cases value with
  | nan negative => simp [truncate?, number?]
  | infinite negative => simp [truncate?, number?]
  | finite negative mantissa exponent =>
      have positive : (0 : ℚ) < denominator exponent := by exact_mod_cast denominator_pos exponent
      calc (finite negative mantissa exponent).truncate? = some 0
          ↔ numerator mantissa exponent / denominator exponent = 0 := by
            rw [truncate?, Option.some_inj, signed_eq_zero_iff]
        _ ↔ numerator mantissa exponent < denominator exponent :=
            Nat.div_eq_zero_iff_lt (denominator_pos exponent)
        _ ↔ (mantissa * 2 ^ exponent : ℚ) < 1 := by
            rw [← numerator_div_denominator, div_lt_one positive, Nat.cast_lt]
        _ ↔ ∃ number, (finite negative mantissa exponent).number? = some number ∧ |number| < 1 := by
            constructor
            · exact fun small => ⟨_, rfl, (abs_of_number? rfl).trans_lt small⟩
            · rintro ⟨number, exact, small⟩
              rwa [abs_of_number? exact] at small

theorem wordBound_pos (bits : Nat) : 0 < wordBound bits :=
  Int.natCast_pos.mpr (Nat.two_pow_pos _)

theorem toWord_bounds (bits : Nat) (converted? : Option Int) :
    -wordBound bits ≤ toWord bits converted? ∧ toWord bits converted? < wordBound bits := by
  have positive := wordBound_pos bits
  cases converted? with
  | none => exact ⟨Int.le_refl _, by simp only [toWord]; omega⟩
  | some value =>
      rw [toWord]
      split
      next word =>
        simp only [isWord, Bool.and_eq_true, decide_eq_true_eq] at word
        exact word
      next => exact ⟨Int.le_refl _, by omega⟩

/-- A conversion that fails does not come to zero, for what stands in for its result is the least word. -/
theorem toWord_eq_zero_iff {bits : Nat} {converted? : Option Int} :
    toWord bits converted? = 0 ↔ converted? = some 0 := by
  have positive := wordBound_pos bits
  cases converted? with
  | none =>
      simp only [toWord, reduceCtorEq, iff_false]
      omega
  | some value =>
      rw [toWord, Option.some_inj]
      split
      next => rfl
      next wide =>
        simp only [isWord, Bool.and_eq_true, decide_eq_true_eq] at wide
        omega

end Binary64

namespace Json

/-- The number that a value is, if it is a finite one. -/
def number? : Json → Option ℚ
  | .integer value => some value
  | .double value => value.number?
  | _ => none

/-- A number other than zero of which a 32-bit word keeps nothing. -/
inductive FadesToZero : Json → Prop
  | integer {value : Int} (nonzero : value ≠ 0) (multiple : 2 ^ 32 ∣ value) :
      FadesToZero (.integer value)
  | double {value : Binary64} {number : ℚ} (exact : value.number? = some number)
      (nonzero : number ≠ 0) (small : |number| < 1) : FadesToZero (.double value)

theorem ofInt_eq_zero_iff {value : Int} : Int32.ofInt value = 0 ↔ 2 ^ 32 ∣ value := by
  rw [Int32.ofInt_eq_iff_bmod_eq_toInt]
  exact (Int.dvd_iff_bmod_eq_zero (a := 2 ^ 32)).symm

theorem ofInt_toInt32_eq_zero_iff {value : Binary64} :
    Int32.ofInt value.toInt32 = 0 ↔ value.truncate? = some 0 := by
  have bounds := Binary64.toWord_bounds 32 value.truncate?
  have bound_eq : Binary64.wordBound 32 = 2 ^ 31 := by decide
  rw [ofInt_eq_zero_iff, Binary64.toInt32, ← @Binary64.toWord_eq_zero_iff 32]
  omega

theorem fadesToZero_integer_iff {value : Int} :
    (integer value).FadesToZero ↔ value ≠ 0 ∧ 2 ^ 32 ∣ value := by
  constructor
  · rintro ⟨nonzero, multiple⟩
    exact ⟨nonzero, multiple⟩
  · exact fun ⟨nonzero, multiple⟩ => .integer nonzero multiple

theorem fadesToZero_double_iff {value : Binary64} :
    (double value).FadesToZero ↔
      ∃ number, value.number? = some number ∧ number ≠ 0 ∧ |number| < 1 := by
  constructor
  · rintro (_ | ⟨exact, nonzero, small⟩)
    exact ⟨_, exact, nonzero, small⟩
  · exact fun ⟨_, exact, nonzero, small⟩ => .double exact nonzero small

/-- A value is read as the word zero if it is the number zero, or fades to it. -/
theorem toInt32?_eq_some_zero_iff {value : Json} :
    value.toInt32? = some 0 ↔ value.number? = some 0 ∨ value.FadesToZero := by
  cases value with
  | integer whole =>
      rw [toInt32?, Option.some_inj, ofInt_eq_zero_iff, fadesToZero_integer_iff, number?,
        Option.some_inj, Int.cast_eq_zero]
      constructor
      · exact fun multiple => Classical.or_iff_not_imp_left.mpr fun nonzero => ⟨nonzero, multiple⟩
      · rintro (rfl | ⟨_, multiple⟩)
        · exact Int.dvd_zero _
        · exact multiple
  | double value =>
      rw [toInt32?, Option.some_inj, ofInt_toInt32_eq_zero_iff, Binary64.truncate?_eq_some_zero_iff,
        fadesToZero_double_iff, number?]
      constructor
      · rintro ⟨number, exact, small⟩
        by_cases zero : number = 0
        · exact .inl (zero ▸ exact)
        · exact .inr ⟨number, exact, zero, small⟩
      · rintro (zero | ⟨number, exact, _, small⟩)
        · exact ⟨0, zero, by norm_num⟩
        · exact ⟨number, exact, small⟩
  | _ =>
      constructor
      · intro absent
        cases absent
      · rintro (absent | fades)
        · cases absent
        · cases fades

end Json

end SandboxClient
