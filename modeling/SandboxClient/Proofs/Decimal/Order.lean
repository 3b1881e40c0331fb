import SandboxClient.Proofs.Decimal.Magnitude
import SandboxClient.Proofs.Json.Number

/-!
# Doubles without a sign

The bits of doubles whose sign is not set order them as their values do, with infinity and what is not a
number at the end.  A value below two to the sixty-third is rounded to the nearest 64-bit integer, and all
others to the least one.
-/

namespace SandboxClient

/-- A double whose sign is not set. -/
def IsUnsigned (value : Float) : Prop :=
  value.toBits.toNat < 2 ^ 63

/-- A double that is a number below two to the sixty-third. -/
def Fits (value : Float) : Prop :=
  ∃ number, (Binary64.ofFloat value).number? = some number ∧ number < 2 ^ 63

/-! ## Values by bits -/

/-- How often the least positive double goes into the one with some bits. -/
def units (bits : Nat) : Nat :=
  let field := bits / 2 ^ 52
  let fraction := bits % 2 ^ 52
  if field = 0 then fraction else (2 ^ 52 + fraction) * 2 ^ (field - 1)

theorem units_of_short {bits : Nat} (short : bits / 2 ^ 52 = 0) : units bits = bits % 2 ^ 52 := by
  rw [units]
  exact if_pos short

theorem units_of_long {bits : Nat} (long : bits / 2 ^ 52 ≠ 0) :
    units bits = (2 ^ 52 + bits % 2 ^ 52) * 2 ^ (bits / 2 ^ 52 - 1) := by
  rw [units]
  exact if_neg long

theorem units_lt_units {bits more : Nat} (lt : bits < more) : units bits < units more := by
  have fraction_lt : bits % 2 ^ 52 < 2 ^ 52 := Nat.mod_lt _ (by decide)
  have fields : bits / 2 ^ 52 ≤ more / 2 ^ 52 := Nat.div_le_div_right (Nat.le_of_lt lt)
  simp only [units]
  by_cases same : bits / 2 ^ 52 = more / 2 ^ 52
  · have fractions : bits % 2 ^ 52 < more % 2 ^ 52 := by omega
    rw [same]
    split
    · exact fractions
    · exact Nat.mul_lt_mul_of_pos_right (by omega) (Nat.two_pow_pos _)
  · have further : bits / 2 ^ 52 + 1 ≤ more / 2 ^ 52 := by omega
    rw [if_neg (show more / 2 ^ 52 ≠ 0 by omega)]
    -- one place more makes up for any fraction
    have unit : 2 ^ 52 * 2 ^ (more / 2 ^ 52 - 1) ≤
        (2 ^ 52 + more % 2 ^ 52) * 2 ^ (more / 2 ^ 52 - 1) :=
      Nat.mul_le_mul_right _ (Nat.le_add_right _ _)
    refine Nat.lt_of_lt_of_le ?_ unit
    split
    · have least := Nat.two_pow_pos (more / 2 ^ 52 - 1)
      exact Nat.lt_of_lt_of_le fraction_lt (Nat.le_mul_of_pos_right _ least)
    next positive =>
      have power : 2 * 2 ^ (bits / 2 ^ 52 - 1) ≤ 2 ^ (more / 2 ^ 52 - 1) := by
        rw [← Nat.pow_succ']
        exact Nat.pow_le_pow_right (by decide) (by omega)
      calc (2 ^ 52 + bits % 2 ^ 52) * 2 ^ (bits / 2 ^ 52 - 1)
          < 2 ^ 53 * 2 ^ (bits / 2 ^ 52 - 1) :=
            Nat.mul_lt_mul_of_pos_right (by omega) (Nat.two_pow_pos _)
        _ = 2 ^ 52 * (2 * 2 ^ (bits / 2 ^ 52 - 1)) := by rw [← Nat.mul_assoc, ← Nat.pow_succ]
        _ ≤ 2 ^ 52 * 2 ^ (more / 2 ^ 52 - 1) := Nat.mul_le_mul_left _ power

theorem units_le_units_iff {bits more : Nat} : units bits ≤ units more ↔ bits ≤ more :=
  (show StrictMono units from fun _ _ => units_lt_units).le_iff_le

/-- The value of the least positive double. -/
def leastUnit : ℚ := 2 ^ (-1074 : ℤ)

theorem leastUnit_pos : 0 < leastUnit := by
  rw [leastUnit]
  positivity

theorem pow_mul_leastUnit (power : Nat) :
    ((2 ^ power : Nat) : ℚ) * leastUnit = 2 ^ ((power : ℤ) - 1074) := by
  rw [leastUnit, Nat.cast_pow, Nat.cast_ofNat, ← zpow_natCast, ← zpow_add₀ (by norm_num)]
  rfl

variable {value other : Float}

theorem number?_of_finite (finite : value.toBits.toNat < 2047 * 2 ^ 52) :
    ∃ mantissa exponent, Binary64.ofFloat value = .finite false mantissa exponent ∧
      (Binary64.ofFloat value).number? = some (units value.toBits.toNat * leastUnit) := by
  have sign : ¬ value.toBits.toNat / 2 ^ 63 = 1 := by omega
  have field_eq : value.toBits.toNat / 2 ^ 52 % 2 ^ 11 = value.toBits.toNat / 2 ^ 52 := by omega
  have bounded : value.toBits.toNat / 2 ^ 52 ≠ 2047 := by omega
  by_cases short : value.toBits.toNat / 2 ^ 52 = 0
  · have whole : Binary64.ofFloat value = .finite false (value.toBits.toNat % 2 ^ 52) (-1074) := by
      simp only [Binary64.ofFloat, Binary64.fractionBits, Nat.pow_eq, sign, short, decide_false]
      rfl
    refine ⟨_, _, whole, ?_⟩
    rw [whole, Binary64.number?, if_neg Bool.false_ne_true, units_of_short short, leastUnit]
  · have whole : Binary64.ofFloat value =
        .finite false (2 ^ 52 + value.toBits.toNat % 2 ^ 52)
          ((value.toBits.toNat / 2 ^ 52 : Nat) - 1075) := by
      simp only [Binary64.ofFloat, Binary64.fractionBits, Nat.pow_eq, sign, field_eq, short, bounded,
        decide_false, if_false]
    refine ⟨_, _, whole, ?_⟩
    have place : ((value.toBits.toNat / 2 ^ 52 : Nat) : ℤ) - 1075 =
        (value.toBits.toNat / 2 ^ 52 - 1 : Nat) - 1074 := by omega
    rw [whole, Binary64.number?, if_neg Bool.false_ne_true, units_of_long short, Nat.cast_mul,
      mul_assoc, pow_mul_leastUnit, place]

theorem number?_of_not_finite (unsigned : IsUnsigned value)
    (beyond : 2047 * 2 ^ 52 ≤ value.toBits.toNat) :
    (Binary64.ofFloat value).number? = none ∧ (Binary64.ofFloat value).round? = none := by
  rw [IsUnsigned] at unsigned
  have sign : ¬ value.toBits.toNat / 2 ^ 63 = 1 := by omega
  have field_eq : value.toBits.toNat / 2 ^ 52 % 2 ^ 11 = 2047 := by omega
  by_cases whole : value.toBits.toNat % 2 ^ 52 = 0
  · have infinite : Binary64.ofFloat value = .infinite false := by
      simp only [Binary64.ofFloat, Binary64.fractionBits, Nat.pow_eq, sign, field_eq, whole,
        decide_false, if_true]
    rw [infinite]
    exact ⟨rfl, rfl⟩
  · have undefined : Binary64.ofFloat value = .nan false := by
      simp only [Binary64.ofFloat, Binary64.fractionBits, Nat.pow_eq, sign, field_eq, whole,
        decide_false, if_true, if_false]
    rw [undefined]
    exact ⟨rfl, rfl⟩

/-! ## Below two to the sixty-third -/

/-- The bits of two to the sixty-third. -/
def wordBits : Nat := 1086 * 2 ^ 52

theorem units_wordBits : units wordBits * leastUnit = 2 ^ 63 := by
  have field : wordBits / 2 ^ 52 - 1 = 1085 := by decide
  have fraction : wordBits % 2 ^ 52 = 0 := by decide
  have whole : units wordBits = 2 ^ 52 * 2 ^ 1085 := by
    rw [units_of_long (by decide), field, fraction, Nat.add_zero]
  rw [whole, Nat.cast_mul, mul_assoc, pow_mul_leastUnit]
  norm_num

theorem fits_iff (unsigned : IsUnsigned value) : Fits value ↔ value.toBits.toNat < wordBits := by
  by_cases finite : value.toBits.toNat < 2047 * 2 ^ 52
  · obtain ⟨_, _, _, value_eq⟩ := number?_of_finite finite
    rw [Fits, value_eq, ← Nat.not_le, ← units_le_units_iff, Nat.not_le]
    constructor
    · rintro ⟨number, number_eq, below⟩
      rw [← Option.some_inj.mp number_eq, ← units_wordBits] at below
      exact Nat.cast_lt.mp (lt_of_mul_lt_mul_right below leastUnit_pos.le)
    · intro fewer
      refine ⟨_, rfl, ?_⟩
      rw [← units_wordBits]
      exact mul_lt_mul_of_pos_right (Nat.cast_lt.mpr fewer) leastUnit_pos
  · obtain ⟨absent, _⟩ := number?_of_not_finite unsigned (Nat.not_lt.mp finite)
    have large : ¬ value.toBits.toNat < wordBits := by
      rw [wordBits]
      omega
    rw [Fits, absent]
    constructor
    · rintro ⟨_, number_eq, _⟩
      cases number_eq
    · exact fun fewer => absurd fewer large

/-- The largest double below two to the sixty-third is less by two to the tenth. -/
theorem le_of_lt_wordBits {bits : Nat} (short : bits < wordBits) :
    units bits * leastUnit ≤ 2 ^ 63 - 2 ^ 10 := by
  have field : (wordBits - 1) / 2 ^ 52 - 1 = 1084 := by decide
  have fraction : 2 ^ 52 + (wordBits - 1) % 2 ^ 52 = 2 ^ 53 - 1 := by decide
  have most : units (wordBits - 1) = (2 ^ 53 - 1) * 2 ^ 1084 := by
    rw [units_of_long (by decide), field, fraction]
  have fewer : units bits ≤ units (wordBits - 1) := units_le_units_iff.mpr (by omega)
  calc units bits * leastUnit
      ≤ units (wordBits - 1) * leastUnit :=
        mul_le_mul_of_nonneg_right (Nat.cast_le.mpr fewer) leastUnit_pos.le
    _ = 2 ^ 63 - 2 ^ 10 := by
        rw [most, Nat.cast_mul, mul_assoc, pow_mul_leastUnit]
        norm_num

/-! ## Rounding to 64 bits -/

namespace Binary64

theorem roundHalfUp_eq_round (mantissa : Nat) (exponent : Int) :
    (roundHalfUp (numerator mantissa exponent) (denominator exponent) : ℤ) =
      round (mantissa * 2 ^ exponent : ℚ) := by
  have positive : (0 : ℚ) < denominator exponent := by exact_mod_cast denominator_pos exponent
  have halves : (mantissa * 2 ^ exponent : ℚ) + 1 / 2 =
      (2 * numerator mantissa exponent + denominator exponent : Nat) /
        (2 * denominator exponent : Nat) := by
    rw [← numerator_div_denominator]
    push_cast
    field_simp
  rw [round_eq, halves, Rat.floor_natCast_div_natCast, roundHalfUp]
  norm_cast

end Binary64

theorem toWord_natCast_of_le {whole : Nat} (large : 2 ^ 63 ≤ whole) :
    Binary64.toWord 64 (some whole) = -2 ^ 63 := by
  have bound : Binary64.wordBound 64 = 2 ^ 63 := by decide
  have wide : Binary64.isWord 64 whole = false := by
    rw [Binary64.isWord, bound, Bool.and_eq_false_iff, decide_eq_false_iff_not,
      decide_eq_false_iff_not]
    omega
  rw [Binary64.toWord, wide, bound]
  rfl

theorem roundToInt64_of_finite (finite : value.toBits.toNat < 2047 * 2 ^ 52) :
    ∃ nearest : Nat, (nearest : ℤ) = round (units value.toBits.toNat * leastUnit) ∧
      roundToInt64 value = Binary64.toWord 64 (some nearest) := by
  obtain ⟨mantissa, exponent, whole, number_eq⟩ := number?_of_finite finite
  rw [whole] at number_eq
  refine ⟨_, ?_, by rw [roundToInt64, whole]; rfl⟩
  rw [← Option.some_inj.mp number_eq]
  exact Binary64.roundHalfUp_eq_round mantissa exponent

theorem roundToInt64_of_lt (short : value.toBits.toNat < wordBits) :
    roundToInt64 value = round (units value.toBits.toNat * leastUnit) ∧ 0 ≤ roundToInt64 value := by
  have finite : value.toBits.toNat < 2047 * 2 ^ 52 := by
    rw [wordBits] at short
    omega
  obtain ⟨nearest, nearest_eq, rounded⟩ := roundToInt64_of_finite finite
  have below : (nearest : ℤ) < 2 ^ 63 := by
    have most := le_of_lt_wordBits short
    rw [nearest_eq, round_eq, Int.floor_lt]
    push_cast
    linarith
  rw [rounded, toWord_natCast (by omega)]
  exact ⟨nearest_eq, Int.natCast_nonneg nearest⟩

/-- All other values are out of range. -/
theorem roundToInt64_of_le (unsigned : IsUnsigned value) (long : wordBits ≤ value.toBits.toNat) :
    roundToInt64 value = -2 ^ 63 := by
  by_cases finite : value.toBits.toNat < 2047 * 2 ^ 52
  · obtain ⟨nearest, nearest_eq, rounded⟩ := roundToInt64_of_finite finite
    have least : (2 : ℚ) ^ 63 ≤ units value.toBits.toNat * leastUnit := by
      rw [← units_wordBits]
      exact mul_le_mul_of_nonneg_right (Nat.cast_le.mpr (units_le_units_iff.mpr long))
        leastUnit_pos.le
    have above : (2 : ℤ) ^ 63 ≤ nearest := by
      rw [nearest_eq, round_eq, Int.le_floor]
      push_cast
      linarith
    rw [rounded, toWord_natCast_of_le (by omega)]
  · obtain ⟨_, absent⟩ := number?_of_not_finite unsigned (Nat.not_lt.mp finite)
    rw [roundToInt64, absent]
    rfl

theorem roundToInt64_nonneg (unsigned : IsUnsigned value) (fits : Fits value) :
    0 ≤ roundToInt64 value :=
  (roundToInt64_of_lt ((fits_iff unsigned).mp fits)).2

theorem roundToInt64_of_not_fits (unsigned : IsUnsigned value) (large : ¬ Fits value) :
    roundToInt64 value = -2 ^ 63 :=
  roundToInt64_of_le unsigned (Nat.not_lt.mp (mt (fits_iff unsigned).mpr large))

theorem roundToInt64_le (fits : other.toBits.toNat < wordBits)
    (le : value.toBits.toNat ≤ other.toBits.toNat) : roundToInt64 value ≤ roundToInt64 other := by
  rw [(roundToInt64_of_lt (Nat.lt_of_le_of_lt le fits)).1, (roundToInt64_of_lt fits).1, round_eq,
    round_eq]
  refine Int.floor_mono ?_
  gcongr
  · exact leastUnit_pos.le
  · exact units_le_units_iff.mpr le

/-- A number in range stays in range when its fraction is dropped. -/
theorem truncateToInt64_nonneg {number : ℚ} (value_eq : (Binary64.ofFloat value).number? = some number)
    (nonneg : 0 ≤ number) (below : number < 2 ^ 63) : 0 ≤ truncateToInt64 value := by
  rw [truncateToInt64]
  cases decoded : Binary64.ofFloat value with
  | nan negative => simp [decoded, Binary64.number?] at value_eq
  | infinite negative => simp [decoded, Binary64.number?] at value_eq
  | finite negative mantissa exponent =>
      rw [decoded] at value_eq
      have magnitude : number = (Binary64.numerator mantissa exponent : ℚ) /
          Binary64.denominator exponent := by
        rw [Binary64.numerator_div_denominator, ← Binary64.abs_of_number? value_eq, abs_of_nonneg nonneg]
      have positive : (0 : ℚ) < Binary64.denominator exponent := by
        exact_mod_cast Binary64.denominator_pos exponent
      have short : Binary64.numerator mantissa exponent / Binary64.denominator exponent < 2 ^ 63 := by
        rw [Nat.div_lt_iff_lt_mul (Binary64.denominator_pos exponent)]
        rw [magnitude, div_lt_iff₀ positive] at below
        exact_mod_cast below
      cases negative with
      | false =>
          rw [Binary64.truncate?, Binary64.signed, if_neg Bool.false_ne_true, toWord_natCast short]
          exact Int.natCast_nonneg _
      | true =>
          -- the sign of zero may be set, that of no other number
          have zero : mantissa = 0 := by
            have product : (0 : ℚ) ≤ mantissa * 2 ^ exponent := by positivity
            rw [Binary64.number?, if_pos rfl] at value_eq
            have both : (mantissa * 2 ^ exponent : ℚ) = 0 := by
              linarith [Option.some_inj.mp value_eq]
            exact_mod_cast (mul_eq_zero.mp both).resolve_right (zpow_ne_zero _ two_ne_zero)
          subst zero
          rw [Binary64.truncate?, Binary64.numerator, Nat.zero_mul, Nat.zero_div]
          decide

end SandboxClient
