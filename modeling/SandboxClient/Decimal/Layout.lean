import SandboxClient.Text
import SandboxClient.Decimal.Shortest

/-!
# Written forms of doubles

Two kinds of text carry doubles: JSON documents and messages.  Both write the shortest digits, and
differ in where positional notation ends, in the tail of whole numbers and in the names of values
that are not finite.  Elapsed seconds are written with two places, rounded from the exact value.
-/

namespace SandboxClient

namespace Decimal

/-- How a double is written from its shortest digits. -/
structure Layout where
  /-- The greatest decimal point position that is written positionally. -/
  lastPoint : Int
  /-- What follows the digits of a whole number in positional notation. -/
  wholeTail : Bytes
  /-- What is written for values that are not numbers, without a sign. -/
  undefined : Bytes
  infinity : Bytes
  /-- Whether values that are not finite have a sign. -/
  isSigned : Bool

/-- Positional notation starts at this decimal point position: `0.0001` is written so. -/
def firstPoint : Int := -3

/-- Doubles of a JSON document: whole numbers keep a fraction, what is not finite is null. -/
def Layout.json : Layout where
  lastPoint := 15
  wholeTail := utf8 ".0"
  undefined := utf8 "null"
  infinity := utf8 "null"
  isSigned := false

/-- Doubles of a message: whole numbers have no fraction. -/
def Layout.message : Layout where
  lastPoint := 16
  wholeTail := []
  undefined := utf8 "nan"
  infinity := utf8 "inf"
  isSigned := true

def zeros (count : Nat) : Bytes :=
  List.replicate count 48

/-- The digits of a decimal without trailing zeros. -/
def significant (digits : Nat) : Bytes :=
  ((Text.decimal digits).reverse.dropWhile (· == 48)).reverse

/-- The exponent of scientific notation: a sign and at least two digits. -/
def exponentText (exponent : Int) : Bytes :=
  let digits := Text.decimal exponent.natAbs
  utf8 (if exponent < 0 then "e-" else "e+") ++ zeros (2 - digits.length) ++ digits

/-- Scientific notation: one digit before the point, and no point after a single digit. -/
def scientific (digits : Bytes) (exponent : Int) : Bytes :=
  match digits with
  | first :: next :: rest => [first] ++ utf8 "." ++ next :: rest ++ exponentText exponent
  | _ => digits ++ exponentText exponent

/-- A positive decimal in the given layout. -/
def Layout.magnitude (layout : Layout) (decimal : Digits) : Bytes :=
  let digits := significant decimal.digits
  let count : Int := digits.length
  let point := decimal.point
  if firstPoint ≤ point ∧ point ≤ layout.lastPoint then
    if count ≤ point then digits ++ zeros (point - count).toNat ++ layout.wholeTail
    else if 0 < point then
      digits.take point.toNat ++ utf8 "." ++ digits.drop point.toNat
    else utf8 "0." ++ zeros (-point).toNat ++ digits
  else scientific digits (point - 1)

/-- The sign in front of a negative value. -/
def signText (negative : Bool) : Bytes :=
  if negative then utf8 "-" else []

/-- A double in the given layout. -/
def Layout.render (layout : Layout) : Binary64 → Bytes
  | .nan negative => signText (layout.isSigned && negative) ++ layout.undefined
  | .infinite negative => signText (layout.isSigned && negative) ++ layout.infinity
  | .finite negative mantissa exponent =>
    signText negative ++
      if mantissa = 0 then utf8 "0" ++ layout.wholeTail
      else layout.magnitude (shortest mantissa exponent)

/-- A finite double with two places, a half going to the even neighbour. -/
def twoPlaces : Binary64 → Bytes
  | .finite negative mantissa exponent =>
    let hundredths := Binary64.roundHalfEven (100 * Binary64.numerator mantissa exponent)
      (Binary64.denominator exponent)
    let cents := Text.decimal (hundredths % 100)
    signText negative ++ Text.decimal (hundredths / 100) ++ utf8 "." ++
      zeros (2 - cents.length) ++ cents
  | value => Layout.message.render value

end Decimal

end SandboxClient
