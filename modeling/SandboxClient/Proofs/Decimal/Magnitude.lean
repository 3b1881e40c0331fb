import Mathlib
import SandboxClient.Clock

/-!
# Magnitudes of doubles

How large a double is, as far as its exponent field tells.  Rounding keeps the place of the leading digit
or moves it up by one, so the exponent field of a product or of a quotient is known up to two, whatever
the fractions.  That is enough to see that a duration in milliseconds that is converted to seconds and
back does not get lost.
-/

namespace SandboxClient

open Float.Model Float.Model.UnpackedFloat

/-- A positive double with an implied leading digit, by the two fields of its bits: its value is
`(2 ^ 52 + fraction) * 2 ^ (field - 1075)`. -/
structure IsNormal (value : Float) (field fraction : Nat) : Prop where
  bits_eq : value.toBits.toNat = field * 2 ^ 52 + fraction
  field_pos : 0 < field
  field_lt : field < 2047
  fraction_lt : fraction < 2 ^ 52

/-! ## Rounding -/

theorem mantissa_shiftRight (extended : ExtendedMantissa) (count : Nat) :
    (extended >>> count).mantissa = extended.mantissa / 2 ^ count := by
  induction count with
  | zero => simp [HShiftRight.hShiftRight, Nat.repeat]
  | succ count ih =>
      have halved : (extended >>> (count + 1)).mantissa = (extended >>> count).mantissa / 2 := rfl
      rw [halved, ih, Nat.div_div_eq_div_mul, Nat.pow_succ]

theorem roundedMantissa_bounds (extended : ExtendedMantissa) :
    extended.mantissa ≤ extended.roundedMantissa ∧
      extended.roundedMantissa ≤ extended.mantissa + 1 := by
  obtain ⟨mantissa, roundBit, stickyBit⟩ := extended
  cases roundBit <;> cases stickyBit <;>
    simp only [ExtendedMantissa.roundedMantissa, ExtendedMantissa.accuracy,
      Accuracy.roundToNearestEven] <;> omega

theorem mantissa_ofMantissaAndAccuracy (mantissa : Nat) (accuracy : Accuracy) :
    (ExtendedMantissa.ofMantissaAndAccuracy mantissa accuracy).mantissa = mantissa := by
  cases accuracy with
  | exact => rfl
  | inexact order => cases order <;> rfl

theorem shiftToTargetExponent_eq (mantissa : Nat) (exponent : Int) (accuracy : Accuracy)
    (long : 52 ≤ mantissa.log2) (large : -1022 ≤ exponent + mantissa.log2) :
    let shifted := shiftToTargetExponent .binary64 mantissa exponent accuracy
    shifted.1.mantissa = mantissa / 2 ^ (mantissa.log2 - 52) ∧
      shifted.2 = exponent + mantissa.log2 - 52 := by
  have amount : (Format.binary64.targetExponent (totalExponent mantissa exponent) - exponent).toNat =
      mantissa.log2 - 52 := by
    simp only [Format.targetExponent, totalExponent, Format.mantissaBits, Format.minExponent]
    omega
  simp only [shiftToTargetExponent, shiftToExponent, amount, mantissa_shiftRight,
    mantissa_ofMantissaAndAccuracy, true_and]
  omega

theorem div_shift_bounds {mantissa : Nat} (long : 52 ≤ mantissa.log2) :
    2 ^ 52 ≤ mantissa / 2 ^ (mantissa.log2 - 52) ∧
      mantissa / 2 ^ (mantissa.log2 - 52) < 2 ^ 53 := by
  have positive : mantissa ≠ 0 := by
    rintro rfl
    simp at long
  have least := Nat.log2_self_le positive
  have most := Nat.lt_log2_self (n := mantissa)
  obtain ⟨extra, length_eq⟩ : ∃ extra, mantissa.log2 = 52 + extra := Nat.exists_eq_add_of_le long
  rw [length_eq] at least most ⊢
  have step : 2 ^ (52 + extra + 1) = 2 ^ 53 * 2 ^ extra := by rw [← Nat.pow_add]; congr 1; omega
  rw [Nat.pow_add] at least
  rw [step] at most
  rw [Nat.add_sub_cancel_left]
  exact ⟨(Nat.le_div_iff_mul_le (Nat.two_pow_pos extra)).mpr least,
    (Nat.div_lt_iff_lt_mul (Nat.two_pow_pos extra)).mpr most⟩

theorem log2_eq {mantissa : Nat} (least : 2 ^ 52 ≤ mantissa) (most : mantissa < 2 ^ 53) :
    mantissa.log2 = 52 :=
  (Nat.log2_eq_iff (by omega)).mpr ⟨least, most⟩

theorem roundWithAccuracy_normal {mantissa : Nat} {exponent : Int} (sign : Sign) (accuracy : Accuracy)
    (long : 52 ≤ mantissa.log2) (large : -1022 ≤ exponent + mantissa.log2) :
    ∃ rounded carried positive,
      roundWithAccuracy .binary64 sign mantissa exponent accuracy =
        .finite sign rounded carried positive ∧
      (2 ^ 52 ≤ rounded ∧ rounded < 2 ^ 53) ∧
      (carried = exponent + mantissa.log2 - 52 ∧ mantissa / 2 ^ (mantissa.log2 - 52) ≤ rounded ∨
        carried = exponent + mantissa.log2 - 51) := by
  obtain ⟨mantissa_eq, exponent_eq⟩ :=
    shiftToTargetExponent_eq mantissa exponent accuracy long large
  obtain ⟨least, most⟩ := div_shift_bounds long
  obtain ⟨down, up⟩ :=
    roundedMantissa_bounds (shiftToTargetExponent .binary64 mantissa exponent accuracy).1
  rw [roundWithAccuracy]
  generalize shiftToTargetExponent .binary64 mantissa exponent accuracy = first at *
  obtain ⟨extended, shifted⟩ := first
  simp only at *
  rw [mantissa_eq] at down up
  by_cases carry : extended.roundedMantissa < 2 ^ 53
  · have digits := log2_eq (by omega) carry
    obtain ⟨again, same⟩ := shiftToTargetExponent_eq extended.roundedMantissa shifted
      .exact (by omega) (by omega)
    simp only [digits, Nat.sub_self, Nat.pow_zero, Nat.div_one] at again same
    have positive : extended.roundedMantissa ≠ 0 := by omega
    refine ⟨_, shifted, Nat.pos_of_ne_zero positive, ?_, ⟨by omega, carry⟩, by omega⟩
    have kept : shifted + (52 : Nat) - 52 = shifted := by omega
    simp only [again, same, kept]
    exact dif_neg positive
  · have full : extended.roundedMantissa = 2 ^ 53 := by omega
    have digits : extended.roundedMantissa.log2 = 53 := by rw [full, Nat.log2_two_pow]
    obtain ⟨again, next⟩ := shiftToTargetExponent_eq extended.roundedMantissa shifted
      .exact (by omega) (by omega)
    have halved : 2 ^ 53 / 2 ^ (53 - 52) = 2 ^ 52 := by decide
    have moved : shifted + (53 : Nat) - 52 = shifted + 1 := by omega
    rw [digits, full] at again next
    rw [halved] at again
    rw [moved] at next
    refine ⟨2 ^ 52, shifted + 1, by decide, ?_, by decide, by omega⟩
    simp only [full, again, next]
    exact dif_neg (by decide)

/-! ## Bits -/

theorem toNat_packComponents (exponent : BitVec 11) (mantissa : BitVec 52) :
    (packComponents .binary64 .positive exponent mantissa).toNat =
      exponent.toNat * 2 ^ 52 + mantissa.toNat := by
  have below : mantissa.toNat < 2 ^ 52 := mantissa.isLt
  simp only [packComponents, BitVec.toNat_append]
  rw [← Nat.shiftLeft_add_eq_or_of_lt below]
  simp [Nat.shiftLeft_eq, Sign.toBitVec]

theorem isNormal_pack {mantissa : Nat} {exponent : Int} {positive : 0 < mantissa}
    (least : 2 ^ 52 ≤ mantissa) (most : mantissa < 2 ^ 53) (low : -1074 ≤ exponent)
    (high : exponent ≤ 971) :
    IsNormal (.ofModel (.pack (.finite .positive mantissa exponent positive)))
      (exponent + 1075).toNat (mantissa - 2 ^ 52) where
  bits_eq := by
    have digits := log2_eq least most
    have biased : (exponent + (1023 : Nat) + (52 : Nat)).toNat = (exponent + 1075).toNat := by omega
    have finite : ¬ 2 ^ 11 ≤ (exponent + 1075).toNat + 1 := by omega
    have packed : UnpackedFloat.pack .binary64 (.finite .positive mantissa exponent positive) =
        packComponents .binary64 .positive (.ofNat _ (exponent + 1075).toNat) (.ofNat _ mantissa) := by
      have bias : Format.binary64.exponentBias = 1023 := by decide
      have length : Format.binary64.mantissaBits = 53 := by decide
      simp only [UnpackedFloat.pack, digits, bias, length, biased, finite, if_false, if_true]
    have field_eq : (exponent + 1075).toNat % 2 ^ 11 = (exponent + 1075).toNat := by omega
    have fraction_eq : mantissa % 2 ^ 52 = mantissa - 2 ^ 52 := by omega
    show (UnpackedFloat.pack .binary64 (.finite .positive mantissa exponent positive)).toNat = _
    rw [packed, toNat_packComponents, BitVec.toNat_ofNat, BitVec.toNat_ofNat, field_eq, fraction_eq]
  field_pos := by omega
  field_lt := by omega
  fraction_lt := by omega

/-- The place of the leading digit is kept, or moved up by one when all digits are rounded away. -/
theorem isNormal_round (mantissa : Nat) (exponent : Int) (accuracy : Accuracy)
    (long : 52 ≤ mantissa.log2) (low : -1022 ≤ exponent + mantissa.log2)
    (high : exponent + mantissa.log2 ≤ 1022) :
    ∃ field fraction,
      IsNormal (.ofModel (.pack (roundWithAccuracy .binary64 .positive mantissa exponent accuracy)))
        field fraction ∧
      exponent + mantissa.log2 + 1023 ≤ field ∧ field ≤ exponent + mantissa.log2 + 1024 := by
  obtain ⟨rounded, carried, positive, rounded_eq, ⟨least, most⟩, carried_eq⟩ :=
    roundWithAccuracy_normal .positive accuracy long low
  rw [rounded_eq]
  exact ⟨_, _, isNormal_pack least most (by omega) (by omega), by omega, by omega⟩

theorem unpackSign_packComponents (exponent : BitVec 11) (mantissa : BitVec 52) :
    unpackSign (packComponents .binary64 .positive exponent mantissa) = 0#1 := by
  refine BitVec.eq_of_toNat_eq ?_
  have bits := toNat_packComponents exponent mantissa
  have below : (exponent.toNat * 2 ^ 52 + mantissa.toNat) / 2 ^ 63 = 0 := by omega
  simp only [unpackSign, BitVec.toNat_cast, BitVec.extractLsb_toNat, bits, Nat.shiftRight_eq_div_pow]
  rw [below]
  rfl

namespace IsNormal

variable {value other : Float} {field fraction : Nat}

theorem toBitVec_eq (normal : IsNormal value field fraction) :
    value.toModel.toBits.toBitVec =
      packComponents .binary64 .positive (.ofNat _ field) (.ofNat _ fraction) := by
  refine BitVec.eq_of_toNat_eq ?_
  have field_eq : field % 2 ^ 11 = field := Nat.mod_eq_of_lt (by have := normal.field_lt; omega)
  have fraction_eq : fraction % 2 ^ 52 = fraction := Nat.mod_eq_of_lt normal.fraction_lt
  rw [toNat_packComponents, BitVec.toNat_ofNat, BitVec.toNat_ofNat, field_eq, fraction_eq]
  exact normal.bits_eq

theorem unpack_eq (normal : IsNormal value field fraction) :
    ∃ positive, value.toModel.unpack =
      .finite .positive (2 ^ 52 + fraction) ((field : Int) - 1075) positive := by
  have field_eq : (BitVec.ofNat 11 field).toNat = field := by
    rw [BitVec.toNat_ofNat, Nat.mod_eq_of_lt (by have := normal.field_lt; omega)]
  have fraction_eq : (BitVec.ofNat 52 fraction).toNat = fraction := by
    rw [BitVec.toNat_ofNat, Nat.mod_eq_of_lt normal.fraction_lt]
  have finite : BitVec.ofNat 11 field ≠ -1#11 := by
    intro same
    have := congrArg BitVec.toNat same
    rw [field_eq] at this
    exact absurd this (by have := normal.field_lt; simp; omega)
  have implied : BitVec.ofNat 11 field ≠ 0#11 := by
    intro same
    have := congrArg BitVec.toNat same
    rw [field_eq] at this
    exact absurd this (by have := normal.field_pos; simp; omega)
  have mantissa_eq : (1#1 ++ BitVec.ofNat 52 fraction).toNat = 2 ^ 52 + fraction := by
    rw [BitVec.toNat_append, fraction_eq, ← Nat.shiftLeft_add_eq_or_of_lt normal.fraction_lt]
    rfl
  have bias : Format.binary64.exponentBias = 1023 := by decide
  refine ⟨by omega, ?_⟩
  rw [Float.Model.unpack, normal.toBitVec_eq]
  simp only [UnpackedFloat.unpack, unpackMantissa_packComponents, unpackExponent_packComponents,
    unpackSign_packComponents, finite, implied, if_false, field_eq, mantissa_eq, bias]
  rfl

end IsNormal

/-! ## Products and quotients -/

theorem mul_eq_pack (value other : Float) :
    value * other = .ofModel (.pack (UnpackedFloat.mul .binary64 value.toModel.unpack
      other.toModel.unpack)) :=
  rfl

variable {first second : Nat}

theorem log2_mul_bounds (least : 2 ^ 52 ≤ first) (most : first < 2 ^ 53) (otherLeast : 2 ^ 52 ≤ second)
    (otherMost : second < 2 ^ 53) :
    104 ≤ (first * second).log2 ∧ (first * second).log2 < 106 := by
  have low : 2 ^ 52 * 2 ^ 52 ≤ first * second := Nat.mul_le_mul least otherLeast
  have high : first * second < 2 ^ 53 * 2 ^ 53 := Nat.mul_lt_mul'' most otherMost
  rw [← Nat.pow_add] at low high
  have positive : first * second ≠ 0 := by omega
  exact ⟨(Nat.le_log2 positive).mpr low, (Nat.log2_lt positive).mpr high⟩

theorem log2_div_bounds (least : 2 ^ 52 ≤ first) (most : first < 2 ^ 53) (otherLeast : 2 ^ 52 ≤ second)
    (otherMost : second < 2 ^ 53) :
    52 ≤ (first * 2 ^ 53 / second).log2 ∧ (first * 2 ^ 53 / second).log2 < 54 := by
  have low : 2 ^ 52 ≤ first * 2 ^ 53 / second := by
    refine (Nat.le_div_iff_mul_le (by omega)).mpr ?_
    exact Nat.mul_le_mul least (Nat.le_of_lt otherMost)
  have high : first * 2 ^ 53 / second < 2 ^ 54 := by
    refine (Nat.div_lt_iff_lt_mul (by omega)).mpr ?_
    omega
  have positive : first * 2 ^ 53 / second ≠ 0 := by omega
  exact ⟨(Nat.le_log2 positive).mpr low, (Nat.log2_lt positive).mpr high⟩

namespace IsNormal

variable {value other : Float} {field fraction otherField otherFraction : Nat}

theorem mul_eq (first : IsNormal value field fraction)
    (second : IsNormal other otherField otherFraction) :
    value * other = .ofModel (.pack (roundWithAccuracy .binary64 .positive
      ((2 ^ 52 + fraction) * (2 ^ 52 + otherFraction))
      ((field : Int) - 1075 + ((otherField : Int) - 1075)) .exact)) := by
  obtain ⟨positive, value_eq⟩ := first.unpack_eq
  obtain ⟨otherPositive, other_eq⟩ := second.unpack_eq
  rw [mul_eq_pack, value_eq, other_eq]
  rfl

/-- A product has the digits of its factors together, and at most one more by rounding. -/
theorem mul (first : IsNormal value field fraction)
    (second : IsNormal other otherField otherFraction) (low : 1024 ≤ field + otherField)
    (high : field + otherField ≤ 3067) :
    ∃ productField productFraction, IsNormal (value * other) productField productFraction ∧
      field + otherField ≤ productField + 1023 ∧ productField + 1021 ≤ field + otherField := by
  have fraction_lt := first.fraction_lt
  have otherFraction_lt := second.fraction_lt
  obtain ⟨long, short⟩ := log2_mul_bounds (show 2 ^ 52 ≤ 2 ^ 52 + fraction by omega) (by omega)
    (show 2 ^ 52 ≤ 2 ^ 52 + otherFraction by omega) (by omega)
  rw [first.mul_eq second]
  generalize (2 ^ 52 + fraction) * (2 ^ 52 + otherFraction) = mantissa at long short
  obtain ⟨productField, productFraction, normal, _, _⟩ := isNormal_round mantissa
    ((field : Int) - 1075 + ((otherField : Int) - 1075)) .exact (by omega) (by omega) (by omega)
  exact ⟨productField, productFraction, normal, by omega, by omega⟩

theorem divCore_eq (first : IsNormal value field fraction)
    (second : IsNormal other otherField otherFraction) (low : otherField ≤ field + 1021) :
    ∃ accuracy, divCore .binary64 (2 ^ 52 + fraction) ((field : Int) - 1075) (2 ^ 52 + otherFraction)
      ((otherField : Int) - 1075) = ((2 ^ 52 + fraction) * 2 ^ 53 / (2 ^ 52 + otherFraction),
        (field : Int) - otherField - 53, accuracy) := by
  have digits := log2_eq (show 2 ^ 52 ≤ 2 ^ 52 + fraction by omega)
    (by have := first.fraction_lt; omega)
  have otherDigits := log2_eq (show 2 ^ 52 ≤ 2 ^ 52 + otherFraction by omega)
    (by have := second.fraction_lt; omega)
  have length : Format.binary64.mantissaBits = 53 := by decide
  have least : Format.binary64.minExponent = -1074 := by decide
  have target : min ((field : Int) - 1075 - ((otherField : Int) - 1075))
      (Format.binary64.targetExponent (totalExponent (2 ^ 52 + fraction) ((field : Int) - 1075) -
        totalExponent (2 ^ 52 + otherFraction) ((otherField : Int) - 1075))) =
      (field : Int) - otherField - 53 := by
    simp only [Format.targetExponent, totalExponent, digits, otherDigits, length, least]
    omega
  have amount : ((field : Int) - 1075 - ((otherField : Int) - 1075) -
      ((field : Int) - otherField - 53)).toNat = 53 := by omega
  simp only [divCore, target, amount, Nat.shiftLeft_eq]
  exact ⟨_, rfl⟩

theorem div (first : IsNormal value field fraction)
    (second : IsNormal other otherField otherFraction) (low : otherField ≤ field + 1021)
    (high : field ≤ otherField + 1022) :
    ∃ quotientField quotientFraction, IsNormal (value / other) quotientField quotientFraction ∧
      field + 1022 ≤ quotientField + otherField ∧ quotientField + otherField ≤ field + 1024 := by
  obtain ⟨positive, value_eq⟩ := first.unpack_eq
  obtain ⟨otherPositive, other_eq⟩ := second.unpack_eq
  obtain ⟨accuracy, core⟩ := first.divCore_eq second low
  have fraction_lt := first.fraction_lt
  have otherFraction_lt := second.fraction_lt
  have quotient : value / other = .ofModel (.pack (roundWithAccuracy .binary64 .positive
      ((2 ^ 52 + fraction) * 2 ^ 53 / (2 ^ 52 + otherFraction))
      ((field : Int) - otherField - 53) accuracy)) := by
    show Float.ofModel (.pack (UnpackedFloat.div .binary64 value.toModel.unpack
      other.toModel.unpack)) = _
    rw [value_eq, other_eq, UnpackedFloat.div, core]
    rfl
  obtain ⟨long, short⟩ := log2_div_bounds (show 2 ^ 52 ≤ 2 ^ 52 + fraction by omega) (by omega)
    (show 2 ^ 52 ≤ 2 ^ 52 + otherFraction by omega) (by omega)
  rw [quotient]
  generalize (2 ^ 52 + fraction) * 2 ^ 53 / (2 ^ 52 + otherFraction) = mantissa at long short
  obtain ⟨quotientField, quotientFraction, normal, _, _⟩ := isNormal_round mantissa
    ((field : Int) - otherField - 53) accuracy long (by omega) (by omega)
  exact ⟨quotientField, quotientFraction, normal, by omega, by omega⟩

end IsNormal

/-! ## Whole numbers -/

theorem log2_filled {number : Nat} (positive : number ≠ 0) (short : number.log2 ≤ 52) :
    (number * 2 ^ (52 - number.log2)).log2 = 52 := by
  have least := Nat.mul_le_mul_right (2 ^ (52 - number.log2)) (Nat.log2_self_le positive)
  have most := Nat.mul_lt_mul_of_pos_right (Nat.lt_log2_self (n := number))
    (Nat.two_pow_pos (52 - number.log2))
  rw [← Nat.pow_add] at least most
  have low : number.log2 + (52 - number.log2) = 52 := by omega
  have high : number.log2 + 1 + (52 - number.log2) = 53 := by omega
  rw [low] at least
  rw [high] at most
  exact log2_eq least most

theorem isNormal_ofUInt64 (number : Nat) (positive : 0 < number) (most : number < 2 ^ 53) :
    ∃ field fraction, IsNormal number.toUInt64.toFloat field fraction ∧
      number.log2 + 1023 ≤ field ∧ field ≤ number.log2 + 1024 := by
  have short : number.log2 < 53 := (Nat.log2_lt (by omega)).mpr most
  have word : number.toUInt64.toNat = number := by
    show number % 2 ^ 64 = number
    omega
  have length : Format.binary64.mantissaBits = 53 := by decide
  have least : Format.binary64.minExponent = -1074 := by decide
  -- the digits are filled up to 53 before any rounding
  have shifted : decreaseExponent number 0 (Format.binary64.targetExponent (totalExponent number 0)) =
      (number * 2 ^ (52 - number.log2), (number.log2 : Int) - 52) := by
    have target : Format.binary64.targetExponent (totalExponent number 0) = (number.log2 : Int) - 52 := by
      simp only [Format.targetExponent, totalExponent, length, least]
      omega
    have amount : (0 - ((number.log2 : Int) - 52)).toNat = 52 - number.log2 := by omega
    rw [target, decreaseExponent, amount, Nat.shiftLeft_eq]
    simp only [Prod.mk.injEq, true_and]
    omega
  have float : number.toUInt64.toFloat = .ofModel (.pack (roundWithAccuracy .binary64 .positive
      (number * 2 ^ (52 - number.log2)) ((number.log2 : Int) - 52) .exact)) := by
    have sign : compare (number : Int) 0 = .gt := by
      rw [Int.compare_eq_gt]
      omega
    show Float.ofModel (.pack (normalize .binary64 (number.toUInt64.toNat : Nat) 0 .positive)) = _
    rw [word, UnpackedFloat.normalize, sign]
    simp only [UnpackedFloat.round, Int.toNat_natCast, shifted]
  have digits : (number * 2 ^ (52 - number.log2)).log2 = 52 :=
    log2_filled (by omega) (by omega)
  obtain ⟨field, fraction, normal, low, high⟩ := isNormal_round
    (number * 2 ^ (52 - number.log2)) ((number.log2 : Int) - 52) .exact (by omega) (by omega) (by omega)
  rw [float]
  exact ⟨field, fraction, normal, by omega, by omega⟩

theorem isNormal_ofInt {number : Int} (positive : 0 < number) (most : number < 2 ^ 53) :
    ∃ field fraction, IsNormal (Float.ofInt number) field fraction ∧
      number.toNat.log2 + 1023 ≤ field ∧ field ≤ number.toNat.log2 + 1026 := by
  obtain ⟨magnitude, rfl⟩ := Int.eq_ofNat_of_zero_le (Int.le_of_lt positive)
  have one : IsNormal (Float.ofBits 0x3FF0000000000000) 1023 0 := ⟨by decide, by omega, by omega, by omega⟩
  have short : magnitude.log2 < 53 := (Nat.log2_lt (by omega)).mpr (by omega)
  obtain ⟨field, fraction, normal, low, high⟩ :=
    isNormal_ofUInt64 magnitude (by omega) (by omega)
  obtain ⟨productField, productFraction, product, _, _⟩ := normal.mul one (by omega) (by omega)
  have float : Float.ofInt magnitude = magnitude.toUInt64.toFloat * Float.ofBits 0x3FF0000000000000 := by
    have fast : magnitude < 2 ^ 53 ∧ 0 ≤ 22 := by omega
    show Float.ofScientific magnitude false 0 = _
    rw [Float.ofScientific, dif_pos fast]
    rfl
  rw [float]
  exact ⟨productField, productFraction, product, by simp; omega, by simp; omega⟩

/-! ## Truncation -/

theorem truncated_bounds {mantissa : Nat} {exponent : Int} (least : 2 ^ 52 ≤ mantissa)
    (most : mantissa < 2 ^ 53) (low : -52 ≤ exponent) (high : exponent ≤ 10) :
    0 < Binary64.numerator mantissa exponent / Binary64.denominator exponent ∧
      Binary64.numerator mantissa exponent / Binary64.denominator exponent < 2 ^ 63 := by
  simp only [Binary64.numerator, Binary64.denominator, Nat.pow_eq]
  rcases Int.le_total exponent 0 with small | large
  · have up : exponent.toNat = 0 := by omega
    have down : 2 ^ (-exponent).toNat ≤ 2 ^ 52 := Nat.pow_le_pow_right (by decide) (by omega)
    have quotient := Nat.div_le_self mantissa (2 ^ (-exponent).toNat)
    rw [up, Nat.pow_zero, Nat.mul_one]
    exact ⟨Nat.div_pos (by omega) (Nat.two_pow_pos _), by omega⟩
  · have down : (-exponent).toNat = 0 := by omega
    have up : 2 ^ exponent.toNat ≤ 2 ^ 10 := Nat.pow_le_pow_right (by decide) (by omega)
    have positive := Nat.mul_pos (show 0 < mantissa by omega) (Nat.two_pow_pos exponent.toNat)
    have strict : mantissa * 2 ^ exponent.toNat < 2 ^ 53 * 2 ^ 10 :=
      Nat.lt_of_lt_of_le (Nat.mul_lt_mul_of_pos_right most (Nat.two_pow_pos _))
        (Nat.mul_le_mul_left _ up)
    rw [down, Nat.pow_zero, Nat.div_one]
    exact ⟨positive, by omega⟩

theorem toWord_natCast {whole : Nat} (below : whole < 2 ^ 63) :
    Binary64.toWord 64 (some whole) = whole := by
  have bound : Binary64.wordBound 64 = 2 ^ 63 := by decide
  have fits : Binary64.isWord 64 whole = true := by
    rw [Binary64.isWord, bound, Bool.and_eq_true, decide_eq_true_eq, decide_eq_true_eq]
    omega
  rw [Binary64.toWord, fits, if_pos rfl]

namespace IsNormal

variable {value : Float} {field fraction : Nat}

theorem ofFloat_eq (normal : IsNormal value field fraction) :
    Binary64.ofFloat value = .finite false (2 ^ 52 + fraction) ((field : Int) - 1075) := by
  obtain ⟨bits_eq, field_pos, field_lt, fraction_lt⟩ := normal
  have sign : ¬ (field * 2 ^ 52 + fraction) / 2 ^ 63 = 1 := by omega
  have exponent : (field * 2 ^ 52 + fraction) / 2 ^ 52 % 2 ^ 11 = field := by omega
  have digits : (field * 2 ^ 52 + fraction) % 2 ^ 52 = fraction := by omega
  have finite : field ≠ 2047 := by omega
  have implied : field ≠ 0 := by omega
  simp only [Binary64.ofFloat, Binary64.fractionBits, bits_eq, Nat.pow_eq, sign, exponent, digits,
    finite, implied, if_false, decide_false]

/-- A value from one up to less than two to the sixty-third loses nothing but its fraction. -/
theorem truncateToInt64_pos (normal : IsNormal value field fraction) (low : 1023 ≤ field)
    (high : field ≤ 1085) : 0 < truncateToInt64 value := by
  have fraction_lt := normal.fraction_lt
  obtain ⟨positive, below⟩ := truncated_bounds (show 2 ^ 52 ≤ 2 ^ 52 + fraction by omega) (by omega)
    (show -52 ≤ (field : Int) - 1075 by omega) (by omega)
  rw [truncateToInt64, normal.ofFloat_eq, Binary64.truncate?, Binary64.signed, if_neg Bool.false_ne_true,
    toWord_natCast below]
  exact Int.natCast_pos.mpr positive

end IsNormal

/-! ## Seconds and milliseconds -/

namespace Clock

theorem isNormal_thousand : IsNormal 1000 1032 0xF400000000000 :=
  ⟨by decide, by omega, by omega, by omega⟩

theorem secondsToMillis_ofInt_pos {seconds : Int} (positive : 0 < seconds) (word : seconds < 2 ^ 31) :
    0 < secondsToMillis (Float.ofInt seconds) := by
  have short : seconds.toNat.log2 < 31 := (Nat.log2_lt (by omega)).mpr (by omega)
  obtain ⟨field, fraction, normal, low, high⟩ := isNormal_ofInt positive (by omega)
  obtain ⟨_, _, product, _, _⟩ := normal.mul isNormal_thousand (by omega) (by omega)
  exact product.truncateToInt64_pos (by omega) (by omega)

/-- Bounds are kept in milliseconds and handed on in seconds, which does not make any of them zero. -/
theorem secondsToMillis_millisToSeconds_pos {millis : Int} (positive : 0 < millis)
    (moderate : millis < 2 ^ 43) : 0 < secondsToMillis (millisToSeconds millis) := by
  by_cases single : millis = 1
  · subst single
    decide
  -- from two on, what a quotient may lose is made up for by the place of the leading digit
  have long : 1 ≤ millis.toNat.log2 := (Nat.le_log2 (by omega)).mpr (by omega)
  have short : millis.toNat.log2 < 43 := (Nat.log2_lt (by omega)).mpr (by omega)
  obtain ⟨field, fraction, normal, low, high⟩ := isNormal_ofInt positive (by omega)
  obtain ⟨_, _, quotient, _, _⟩ := normal.div isNormal_thousand (by omega) (by omega)
  obtain ⟨_, _, product, _, _⟩ := quotient.mul isNormal_thousand (by omega) (by omega)
  exact product.truncateToInt64_pos (by omega) (by omega)

end Clock

end SandboxClient
