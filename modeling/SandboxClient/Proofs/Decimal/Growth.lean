import SandboxClient.Proofs.Decimal.Order

/-!
# Products of doubles without a sign

A double whose sign is not set stays such when it is multiplied by a positive factor.  A factor from one
on makes no value from one on any smaller, and a product that is beyond all numbers stays there.
-/

namespace SandboxClient

open Float.Model Float.Model.UnpackedFloat

variable {value other : Float} {unpacked : UnpackedFloat}

/-! ## Parts of bits -/

theorem toNat_unpackExponent (bits : BitVec 64) :
    (@unpackExponent .binary64 bits).toNat = bits.toNat / 2 ^ 52 % 2 ^ 11 := by
  simp only [unpackExponent, BitVec.toNat_cast, BitVec.extractLsb_toNat, Nat.shiftRight_eq_div_pow]

theorem toNat_unpackSign (bits : BitVec 64) :
    (@unpackSign .binary64 bits).toNat = bits.toNat / 2 ^ 63 % 2 := by
  simp only [unpackSign, BitVec.toNat_cast, BitVec.extractLsb_toNat, Nat.shiftRight_eq_div_pow]

theorem unpackSign_eq_zero_iff :
    @unpackSign .binary64 value.toModel.toBits.toBitVec = 0#1 ↔ IsUnsigned value := by
  have below : value.toBits.toNat < 2 ^ 64 := value.toBits.toBitVec.isLt
  rw [← BitVec.toNat_inj, toNat_unpackSign]
  show value.toBits.toNat / 2 ^ 63 % 2 = 0 ↔ value.toBits.toNat < 2 ^ 63
  omega

/-! ## Signs -/

/-- No sign is set; what is not a number has none. -/
def SignClear : UnpackedFloat → Prop
  | .infinity sign | .zero sign | .finite sign _ _ _ => sign = .positive
  | .notANumber => True

theorem exists_packComponents (clear : SignClear unpacked) :
    ∃ exponent mantissa, UnpackedFloat.pack .binary64 unpacked =
      packComponents .binary64 .positive exponent mantissa := by
  cases unpacked with
  | infinity sign =>
      obtain rfl : sign = .positive := clear
      exact ⟨_, _, rfl⟩
  | notANumber => exact ⟨_, _, rfl⟩
  | zero sign =>
      obtain rfl : sign = .positive := clear
      exact ⟨_, _, rfl⟩
  | finite sign mantissa exponent positive =>
      obtain rfl : sign = .positive := clear
      rw [UnpackedFloat.pack]
      split
      · exact ⟨_, _, rfl⟩
      · split
        · exact ⟨_, _, rfl⟩
        · exact ⟨_, _, rfl⟩

theorem isUnsigned_pack (clear : SignClear unpacked) : IsUnsigned (.ofModel (.pack unpacked)) := by
  obtain ⟨exponent, mantissa, packed⟩ := exists_packComponents clear
  show (UnpackedFloat.pack .binary64 unpacked).toNat < 2 ^ 63
  have exponent_lt : exponent.toNat < 2 ^ 11 := exponent.isLt
  have mantissa_lt : mantissa.toNat < 2 ^ 52 := mantissa.isLt
  rw [packed, toNat_packComponents]
  omega

theorem signClear_roundWithAccuracy (mantissa : Nat) (exponent : Int) (accuracy : Accuracy) :
    SignClear (roundWithAccuracy .binary64 .positive mantissa exponent accuracy) := by
  rw [roundWithAccuracy]
  dsimp only
  split
  · rfl
  · rfl

theorem SignClear.mul {first second : UnpackedFloat} (clear : SignClear first)
    (otherClear : SignClear second) : SignClear (UnpackedFloat.mul .binary64 first second) := by
  -- a product has the signs of both, and what is not a number has none
  cases first <;> cases second <;> cases clear <;> cases otherClear
  all_goals first | trivial | rfl | exact signClear_roundWithAccuracy _ _ _

theorem signClear_unpack (unsigned : IsUnsigned value) : SignClear value.toModel.unpack := by
  rw [Float.Model.unpack, UnpackedFloat.unpack, unpackSign_eq_zero_iff.mpr unsigned]
  dsimp only
  split
  · split
    · rfl
    · trivial
  · split
    · split
      · rfl
      · rfl
    · rfl

/-! ## Comparisons -/

theorem compare_of_lt (less : value < other) :
    value.toModel.unpack.compare other.toModel.unpack = some .lt :=
  eq_of_beq (of_decide_eq_true less)

theorem compare_of_le (le : value ≤ other) :
    (value.toModel.unpack.compare other.toModel.unpack).any (·.isLE) = true :=
  of_decide_eq_true le

/-- What is positive is a number or infinity. -/
theorem unpack_of_pos (positive : 0 < value) :
    value.toModel.unpack = .infinity .positive ∨ ∃ mantissa exponent counts,
      value.toModel.unpack = .finite .positive mantissa exponent counts := by
  have less := compare_of_lt positive
  have zero : (0 : Float).toModel.unpack = .zero .positive := by rfl
  rw [zero] at less
  cases unpacked : value.toModel.unpack with
  | notANumber => simp [unpacked, UnpackedFloat.compare] at less
  | zero sign => simp [unpacked, UnpackedFloat.compare] at less
  | infinity sign =>
      cases sign with
      | positive => exact .inl rfl
      | negative => simp [unpacked, UnpackedFloat.compare] at less
  | finite sign mantissa exponent counts =>
      cases sign with
      | positive => exact .inr ⟨mantissa, exponent, counts, rfl⟩
      | negative => simp [unpacked, UnpackedFloat.compare] at less

theorem IsUnsigned.mul (unsigned : IsUnsigned value) (positive : 0 < other) :
    IsUnsigned (value * other) := by
  rw [mul_eq_pack]
  refine isUnsigned_pack ((signClear_unpack unsigned).mul ?_)
  rcases unpack_of_pos positive with infinite | ⟨_, _, _, finite⟩
  · rw [infinite]
    rfl
  · rw [finite]
    rfl

/-! ## What is not between zero and one -/

theorem unpack_of_beyond (unsigned : IsUnsigned value) (beyond : 2047 * 2 ^ 52 ≤ value.toBits.toNat) :
    value.toModel.unpack = .infinity .positive ∨ value.toModel.unpack = .notANumber := by
  have ones : @unpackExponent .binary64 value.toModel.toBits.toBitVec = -1#11 := by
    refine BitVec.eq_of_toNat_eq ?_
    rw [toNat_unpackExponent]
    show value.toBits.toNat / 2 ^ 52 % 2 ^ 11 = 2047
    rw [IsUnsigned] at unsigned
    omega
  rw [Float.Model.unpack, UnpackedFloat.unpack, unpackSign_eq_zero_iff.mpr unsigned]
  dsimp only
  rw [if_pos ones]
  split
  · exact .inl rfl
  · exact .inr rfl

theorem unpack_of_short (short : value.toBits.toNat < 2 ^ 52) :
    (∃ mantissa positive, value.toModel.unpack = .finite .positive mantissa (-1074) positive) ∨
      value.toModel.unpack = .zero .positive := by
  have zeros : @unpackExponent .binary64 value.toModel.toBits.toBitVec = 0#11 := by
    refine BitVec.eq_of_toNat_eq ?_
    rw [toNat_unpackExponent]
    show value.toBits.toNat / 2 ^ 52 % 2 ^ 11 = 0
    omega
  have unsigned : IsUnsigned value := by
    rw [IsUnsigned]
    omega
  have bias : Format.binary64.exponentBias = 1023 := by decide
  rw [Float.Model.unpack, UnpackedFloat.unpack, unpackSign_eq_zero_iff.mpr unsigned, zeros, bias]
  dsimp only
  rw [if_neg (by decide), if_pos rfl]
  split
  next => exact .inr rfl
  next counts =>
    exact .inl ⟨_, Nat.pos_of_ne_zero fun zero => counts (BitVec.eq_of_toNat_eq zero), rfl⟩

theorem unpack_of_zero (zero : value.toBits.toNat = 0) : value.toModel.unpack = .zero .positive := by
  have bits : value.toModel.toBits = 0 := UInt64.toNat_inj.mp zero
  rw [Float.Model.unpack, bits]
  rfl

theorem isNormal_of_bits (implied : 2 ^ 52 ≤ value.toBits.toNat)
    (finite : value.toBits.toNat < 2047 * 2 ^ 52) :
    IsNormal value (value.toBits.toNat / 2 ^ 52) (value.toBits.toNat % 2 ^ 52) :=
  ⟨by omega, by omega, by omega, by omega⟩

theorem exponent_le_of_compare {mantissa otherMantissa : Nat} {exponent otherExponent : Int}
    {counts : 0 < mantissa} {otherCounts : 0 < otherMantissa}
    (least : ((UnpackedFloat.finite .positive mantissa exponent counts).compare
      (.finite .positive otherMantissa otherExponent otherCounts)).any (·.isLE) = true) :
    exponent ≤ otherExponent := by
  by_contra greater
  have order : compare exponent otherExponent = .gt := Int.compare_eq_gt.mpr (by omega)
  simp [UnpackedFloat.compare, order] at least

theorem unpack_one :
    (1 : Float).toModel.unpack = .finite .positive (2 ^ 52) (-52) (by decide) := by
  rfl

theorem isUnsigned_of_one_le (large : 1 ≤ value) : IsUnsigned value := by
  have least := compare_of_le large
  by_contra signed
  have negative : Sign.ofBitVec (@unpackSign .binary64 value.toModel.toBits.toBitVec) =
      .negative := if_neg (mt unpackSign_eq_zero_iff.mp signed)
  rw [unpack_one, Float.Model.unpack, UnpackedFloat.unpack] at least
  dsimp only at least
  rw [negative] at least
  -- whatever a sign is set of, it is less than one
  split at least
  · split at least <;> simp [UnpackedFloat.compare] at least
  · split at least
    · split at least <;> simp [UnpackedFloat.compare] at least
    · simp [UnpackedFloat.compare] at least

/-- What is at least one is a number from one on or infinity. -/
theorem unpack_of_one_le (large : 1 ≤ value) :
    value.toModel.unpack = .infinity .positive ∨
      ∃ field fraction, IsNormal value field fraction ∧ 1023 ≤ field := by
  have unsigned := isUnsigned_of_one_le large
  have least := compare_of_le large
  rw [unpack_one] at least
  rcases Nat.lt_or_ge value.toBits.toNat (2 ^ 52) with short | implied
  · exfalso
    obtain ⟨_, _, small⟩ | zero := unpack_of_short short
    · rw [small] at least
      have := exponent_le_of_compare least
      omega
    · rw [zero] at least
      simp [UnpackedFloat.compare] at least
  rcases Nat.lt_or_ge value.toBits.toNat (2047 * 2 ^ 52) with finite | beyond
  · have normal := isNormal_of_bits implied finite
    obtain ⟨_, unpacked⟩ := normal.unpack_eq
    rw [unpacked] at least
    have place := exponent_le_of_compare least
    exact .inr ⟨_, _, normal, by omega⟩
  · rcases unpack_of_beyond unsigned beyond with infinite | undefined
    · exact .inl infinite
    · simp [undefined, UnpackedFloat.compare] at least

/-! ## Values that grow -/

/-- A double without a sign that is not between zero and one. -/
structure IsSizable (value : Float) : Prop where
  unsigned : IsUnsigned value
  bits_eq : value.toBits.toNat = 0 ∨ 1023 * 2 ^ 52 ≤ value.toBits.toNat

theorem IsNormal.isSizable {field fraction : Nat} (normal : IsNormal value field fraction)
    (least : 1023 ≤ field) : IsSizable value := by
  obtain ⟨bits_eq, _, field_lt, fraction_lt⟩ := normal
  refine ⟨?_, .inr (by omega)⟩
  rw [IsUnsigned]
  omega

theorem bits_pack_of_large {mantissa : Nat} {exponent : Int} {positive : 0 < mantissa}
    (large : 971 < exponent) :
    (Float.ofModel (.pack (.finite .positive mantissa exponent positive))).toBits.toNat =
      2047 * 2 ^ 52 := by
  have bias : Format.binary64.exponentBias = 1023 := by decide
  have infinite : 2 ^ 11 ≤ (exponent + (1023 : Nat) + (52 : Nat)).toNat + 1 := by omega
  have packed : UnpackedFloat.pack .binary64 (.finite .positive mantissa exponent positive) =
      packedInfinity .binary64 .positive := by
    simp only [UnpackedFloat.pack, bias, infinite, if_true]
  show (UnpackedFloat.pack .binary64 (.finite .positive mantissa exponent positive)).toNat = _
  rw [packed]
  decide

/-- Rounding does not go below a double that the exact value is not below. -/
theorem le_bits_round {mantissa field fraction : Nat} (exponent : Int) (accuracy : Accuracy)
    (long : 52 ≤ mantissa.log2) (low : -1022 ≤ exponent + mantissa.log2) (field_lt : field < 2047)
    (fraction_lt : fraction < 2 ^ 52)
    (reached : (field : Int) < exponent + mantissa.log2 + 1023 ∨
      field = exponent + mantissa.log2 + 1023 ∧
        2 ^ 52 + fraction ≤ mantissa / 2 ^ (mantissa.log2 - 52)) :
    field * 2 ^ 52 + fraction ≤ (Float.ofModel (.pack
      (roundWithAccuracy .binary64 .positive mantissa exponent accuracy))).toBits.toNat := by
  obtain ⟨rounded, carried, positive, rounded_eq, ⟨least, most⟩, carried_eq⟩ :=
    roundWithAccuracy_normal .positive accuracy long low
  rw [rounded_eq]
  rcases Int.lt_or_le 971 carried with large | moderate
  · rw [bits_pack_of_large large]
    omega
  · have normal : IsNormal (.ofModel (.pack (.finite .positive rounded carried positive))) _ _ :=
      isNormal_pack least most (by omega) moderate
    rw [normal.bits_eq]
    omega

theorem isSizable_round {mantissa : Nat} {exponent : Int} (accuracy : Accuracy)
    (long : 52 ≤ mantissa.log2) (low : 1 ≤ exponent + mantissa.log2) :
    IsSizable
      (.ofModel (.pack (roundWithAccuracy .binary64 .positive mantissa exponent accuracy))) := by
  refine ⟨isUnsigned_pack (signClear_roundWithAccuracy mantissa exponent accuracy), .inr ?_⟩
  have reached := le_bits_round exponent accuracy long (by omega) (show 1023 < 2047 by omega)
    (show 0 < 2 ^ 52 by omega) (.inl (by omega))
  exact Nat.le_of_add_right_le reached

/-- A number from one on is not made smaller by another one as a factor. -/
theorem IsNormal.le_mul {field fraction otherField otherFraction : Nat}
    (first : IsNormal value field fraction) (second : IsNormal other otherField otherFraction)
    (least : 1023 ≤ field) (otherLeast : 1023 ≤ otherField) :
    IsUnsigned (value * other) ∧ value.toBits.toNat ≤ (value * other).toBits.toNat := by
  have fraction_lt := first.fraction_lt
  have otherFraction_lt := second.fraction_lt
  obtain ⟨long, short⟩ := log2_mul_bounds (show 2 ^ 52 ≤ 2 ^ 52 + fraction by omega) (by omega)
    (show 2 ^ 52 ≤ 2 ^ 52 + otherFraction by omega) (by omega)
  rw [first.mul_eq second, first.bits_eq]
  refine ⟨isUnsigned_pack (signClear_roundWithAccuracy _ _ _), ?_⟩
  refine le_bits_round _ .exact (by omega) (by omega) first.field_lt fraction_lt ?_
  by_cases same : (field : Int) = (field : Int) - 1075 + ((otherField : Int) - 1075) +
      ((2 ^ 52 + fraction) * (2 ^ 52 + otherFraction)).log2 + 1023
  · have digits : ((2 ^ 52 + fraction) * (2 ^ 52 + otherFraction)).log2 = 104 := by omega
    refine .inr ⟨same, ?_⟩
    rw [digits, Nat.le_div_iff_mul_le (Nat.two_pow_pos _)]
    exact Nat.mul_le_mul_left _ (by omega)
  · exact .inl (by omega)

namespace IsSizable

theorem of_beyond (unsigned : IsUnsigned value) (beyond : 2047 * 2 ^ 52 ≤ value.toBits.toNat) :
    IsSizable value :=
  ⟨unsigned, .inr (by omega)⟩

theorem cases (sizable : IsSizable value) :
    (value.toBits.toNat = 0 ∧ value.toModel.unpack = .zero .positive) ∨
      (∃ field fraction, IsNormal value field fraction ∧ 1023 ≤ field) ∨
      value.toModel.unpack = .infinity .positive ∨ value.toModel.unpack = .notANumber := by
  rcases sizable.bits_eq with zero | large
  · exact .inl ⟨zero, unpack_of_zero zero⟩
  rcases Nat.lt_or_ge value.toBits.toNat (2047 * 2 ^ 52) with finite | beyond
  · exact .inr (.inl ⟨_, _, isNormal_of_bits (by omega) finite, by omega⟩)
  · exact .inr (.inr (unpack_of_beyond sizable.unsigned beyond))

theorem mul_beyond
    (product : UnpackedFloat.mul .binary64 value.toModel.unpack other.toModel.unpack =
        .infinity .positive ∨
      UnpackedFloat.mul .binary64 value.toModel.unpack other.toModel.unpack = .notANumber) :
    IsSizable (value * other) ∧
      min value.toBits.toNat (2047 * 2 ^ 52) ≤ (value * other).toBits.toNat := by
  have beyond : IsUnsigned (value * other) ∧ 2047 * 2 ^ 52 ≤ (value * other).toBits.toNat := by
    rw [mul_eq_pack]
    rcases product with infinite | undefined
    · rw [infinite]
      exact ⟨isUnsigned_pack rfl, by decide⟩
    · rw [undefined]
      exact ⟨isUnsigned_pack trivial, by decide⟩
  exact ⟨of_beyond beyond.1 beyond.2, Nat.le_trans (Nat.min_le_right _ _) beyond.2⟩

/-- A factor from one on makes no value smaller, except that there is nothing beyond infinity. -/
theorem mul (sizable : IsSizable value) (large : 1 ≤ other) :
    IsSizable (value * other) ∧
      min value.toBits.toNat (2047 * 2 ^ 52) ≤ (value * other).toBits.toNat := by
  rcases sizable.cases with ⟨bits_eq, zero⟩ | ⟨field, fraction, first, least⟩ | infinite | undefined
  · rcases unpack_of_one_le large with unbounded | ⟨_, _, second, _⟩
    · refine mul_beyond (.inr ?_)
      rw [zero, unbounded]
      rfl
    · obtain ⟨_, factor⟩ := second.unpack_eq
      have product : value * other = .ofModel (.pack (.zero .positive)) := by
        rw [mul_eq_pack, zero, factor]
        rfl
      rw [product, bits_eq, Nat.zero_min]
      exact ⟨⟨isUnsigned_pack rfl, .inl (by decide)⟩, Nat.zero_le _⟩
  · rcases unpack_of_one_le large with unbounded | ⟨_, _, second, otherLeast⟩
    · obtain ⟨_, unpacked⟩ := first.unpack_eq
      refine mul_beyond (.inl ?_)
      rw [unpacked, unbounded]
      rfl
    · obtain ⟨unsigned, le⟩ := first.le_mul second least otherLeast
      have bits_eq := first.bits_eq
      exact ⟨⟨unsigned, .inr (by omega)⟩, Nat.le_trans (Nat.min_le_left _ _) le⟩
  · refine mul_beyond (.inl ?_)
    rcases unpack_of_one_le large with unbounded | ⟨_, _, second, _⟩
    · rw [infinite, unbounded]
      rfl
    · obtain ⟨_, factor⟩ := second.unpack_eq
      rw [infinite, factor]
      rfl
  · refine mul_beyond (.inr ?_)
    rw [undefined]
    rfl

end IsSizable

/-! ## Whole numbers -/

/-- A number that is not negative has a double of its size, or one without bounds. -/
theorem isSizable_ofInt {number : Int} (nonneg : 0 ≤ number) : IsSizable (Float.ofInt number) := by
  obtain ⟨magnitude, rfl⟩ := Int.eq_ofNat_of_zero_le nonneg
  rcases Nat.eq_zero_or_pos magnitude with rfl | positive
  · exact ⟨by rw [IsUnsigned]; decide, .inl (by decide)⟩
  rcases Nat.lt_or_ge magnitude (2 ^ 53) with short | long
  · obtain ⟨field, fraction, normal, least, _⟩ :=
      isNormal_ofInt (Int.natCast_pos.mpr positive) (show (magnitude : ℤ) < 2 ^ 53 by omega)
    exact normal.isSizable (by omega)
  · have slow : ¬ (magnitude < 2 ^ 53 ∧ 0 ≤ 22) := by omega
    have whole : Float.ofInt magnitude = .ofModel (.pack (roundWithAccuracy .binary64 .positive
        (magnitude <<< 53 * 10 ^ 0) (-53 + 0) .exact)) := by
      have nonzero : magnitude ≠ 0 := by omega
      have moderate : ¬ (0 : ℤ) < -((2 ^ 11 : ℤ) + magnitude.log2) := by omega
      show Float.ofScientific magnitude false 0 = _
      rw [Float.ofScientific, dif_neg slow]
      show Float.ofModel (.pack (UnpackedFloat.ofScientific .binary64 magnitude 0)) = _
      rw [UnpackedFloat.ofScientific, dif_neg nonzero, if_neg (by decide), if_neg moderate,
        if_pos (Int.le_refl 0)]
      rfl
    have digits : 106 ≤ (magnitude <<< 53 * 10 ^ 0).log2 := by
      rw [Nat.pow_zero, Nat.mul_one, Nat.shiftLeft_eq, Nat.le_log2 (by omega)]
      exact Nat.mul_le_mul_right (2 ^ 53) long
    rw [whole]
    exact isSizable_round .exact (by omega) (by omega)

end SandboxClient
