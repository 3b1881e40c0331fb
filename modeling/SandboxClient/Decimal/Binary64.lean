/-!
# Exact values of doubles

A finite double is an integer mantissa times a power of two.  This file converts between doubles and
that form and rounds to integers in exact arithmetic.  A result that does not fit a signed 64-bit
integer is replaced by the least such integer, which is what the conversion instructions of the
supported processors answer.
-/

namespace SandboxClient

/-- The exact value of a double.  A value that is not a number has a sign all the same. -/
inductive Binary64 where
  | nan (negative : Bool)
  | infinite (negative : Bool)
  /-- The value `mantissa * 2 ^ exponent`, negated if `negative`; zero keeps its sign. -/
  | finite (negative : Bool) (mantissa : Nat) (exponent : Int)
  deriving DecidableEq, Repr

namespace Binary64

/-- The number of bits of the stored fraction. -/
def fractionBits : Nat := 52

/-- Decodes a double: the leading bit of the mantissa is implied unless the exponent field is zero,
and an exponent field of ones marks infinities and undefined values. -/
def ofFloat (value : Float) : Binary64 :=
  let bits : Nat := value.toBits.toNat
  let unit := Nat.pow 2 fractionBits
  let negative := bits / Nat.pow 2 63 = 1
  let field : Nat := bits / unit % Nat.pow 2 11
  let fraction : Nat := bits % unit
  if field = 2047 then if fraction = 0 then .infinite negative else .nan negative
  else if field = 0 then .finite negative fraction (-1074)
  else .finite negative (unit + fraction) ((field : Int) - 1075)

/-- The bits of a double below its sign. -/
def magnitudeBits : Binary64 → Nat
  | .nan _ => 4095 * Nat.pow 2 51
  | .infinite _ => 2047 * Nat.pow 2 fractionBits
  | .finite _ mantissa exponent => (exponent + 1074).toNat * Nat.pow 2 fractionBits + mantissa

/-- Whether the sign of a double is set. -/
def isNegative : Binary64 → Bool
  | .nan negative => negative
  | .infinite negative => negative
  | .finite negative _ _ => negative

/-- The double with an exact value. -/
def toFloat (value : Binary64) : Float :=
  let sign := if value.isNegative then Nat.pow 2 63 else 0
  Float.ofBits (UInt64.ofNat (sign + value.magnitudeBits))

/-- A double with the other sign. -/
def negate : Binary64 → Binary64
  | .nan negative => .nan !negative
  | .infinite negative => .infinite !negative
  | .finite negative mantissa exponent => .finite (!negative) mantissa exponent

/-- Whether a double is at most zero; what is not a number is not. -/
def isAtMostZero : Binary64 → Bool
  | .nan _ => false
  | .infinite negative => negative
  | .finite negative mantissa _ => negative || mantissa = 0

/-- The numerator of a finite magnitude over `denominator`. -/
def numerator (mantissa : Nat) (exponent : Int) : Nat :=
  mantissa * Nat.pow 2 exponent.toNat

/-- The denominator of a finite magnitude, a power of two. -/
def denominator (exponent : Int) : Nat :=
  Nat.pow 2 (-exponent).toNat

/-- A quotient of natural numbers rounded to the nearest natural number, a half going up. -/
def roundHalfUp (numerator denominator : Nat) : Nat :=
  (2 * numerator + denominator) / (2 * denominator)

/-- A quotient of natural numbers rounded to the nearest natural number, a half going to the even
neighbour. -/
def roundHalfEven (numerator denominator : Nat) : Nat :=
  let floor := numerator / denominator
  let rest := 2 * (numerator % denominator)
  if rest < denominator then floor
  else if denominator < rest then floor + 1
  else if floor % 2 = 0 then floor else floor + 1

/-- An integer with a sign in front of its magnitude. -/
def signed (negative : Bool) (magnitude : Nat) : Int :=
  if negative then -magnitude else magnitude

/-- The integer left when the fraction of a finite value is dropped; none for the others. -/
def truncate? : Binary64 → Option Int
  | .finite negative mantissa exponent =>
    some (signed negative (numerator mantissa exponent / denominator exponent))
  | _ => none

/-- The nearest integer of a finite value, a half going away from zero; none for the others. -/
def round? : Binary64 → Option Int
  | .finite negative mantissa exponent =>
    some (signed negative (roundHalfUp (numerator mantissa exponent) (denominator exponent)))
  | _ => none

/-- How many signed words of `bits` bits are not negative. -/
def wordBound (bits : Nat) : Int := Nat.pow 2 (bits - 1)

/-- Whether an integer is a signed word of `bits` bits. -/
def isWord (bits : Nat) (value : Int) : Bool :=
  -wordBound bits ≤ value && value < wordBound bits

/-- A conversion result as a signed word: what does not fit becomes the least word. -/
def toWord (bits : Nat) : Option Int → Int
  | some value =>
    if isWord bits value then value else -wordBound bits
  | none => -wordBound bits

/-- A double without its fraction, as a signed 32-bit integer. -/
def toInt32 (value : Binary64) : Int :=
  toWord 32 value.truncate?

end Binary64

/-- A double without its fraction, as a signed 64-bit integer. -/
def truncateToInt64 (value : Float) : Int :=
  Binary64.toWord 64 (Binary64.ofFloat value).truncate?

/-- A double rounded to the nearest signed 64-bit integer, a half going away from zero. -/
def roundToInt64 (value : Float) : Int :=
  Binary64.toWord 64 (Binary64.ofFloat value).round?

end SandboxClient
