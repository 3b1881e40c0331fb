import SandboxClient.Text
import SandboxClient.Decimal.Binary64

/-!
# Reading numerals

Options and variables hold numbers as text.  A reader takes the longest numeral at the start of the
text, after white space and a sign, and leaves what follows it alone.  A text without a numeral is
malformed; a numeral that the type of the option cannot hold is out of range.  A text ends at its
first zero byte.
-/

namespace SandboxClient

/-- Which kind of number a text was read as. -/
inductive NumeralKind where
  | integer
  | size
  | real
  deriving DecidableEq, Repr

/-- Why a text could not be read as a number. -/
inductive NumeralFault where
  | malformed
  | outOfRange
  deriving DecidableEq, Repr

namespace Numeral

/-- White space in front of a numeral: space, and tab to carriage return. -/
def isSpace (byte : UInt8) : Bool :=
  byte == 32 || 9 ≤ byte && byte ≤ 13

/-- A sign, if there is one, and what follows it. -/
def readSign : Bytes → Bool × Bytes
  | 43 :: text => (false, text)
  | 45 :: text => (true, text)
  | text => (false, text)

/-- The sign and digits of the integer numeral a text starts with. -/
def leadingInteger? (text : Bytes) : Option (Bool × Bytes) :=
  let (negative, rest) := readSign ((Text.upToNul text).dropWhile isSpace)
  match rest.takeWhile Text.isDigit with
  | [] => none
  | digits => some (negative, digits)

/-- Reads a signed 32-bit integer. -/
def readInt32 (text : Bytes) : Except NumeralFault Int :=
  match leadingInteger? text with
  | none => .error .malformed
  | some (negative, digits) =>
    let value := Binary64.signed negative (Text.numeralValue digits)
    if Binary64.isWord 32 value then .ok value else .error .outOfRange

/-- Reads a byte count as an unsigned 64-bit integer.  A minus sign negates the value modulo `2 ^ 64`. -/
def readSize (text : Bytes) : Except NumeralFault Nat :=
  match leadingInteger? text with
  | none => .error .malformed
  | some (negative, digits) =>
    let magnitude := Text.numeralValue digits
    let bound := Nat.pow 2 64
    if bound ≤ magnitude then .error .outOfRange
    else if negative then .ok ((bound - magnitude) % bound)
    else .ok magnitude

/-! ## Doubles -/

/-- An unsigned numeral with a fraction and an exponent: `digits * base ^ exponent`, where `base` is
ten for decimal numerals and two for hexadecimal ones. -/
structure Scaled where
  hexadecimal : Bool
  digits : Nat
  exponent : Int
  deriving DecidableEq, Repr

/-- The number `digits * 10 ^ exponent` as the nearest double.  Exponents far outside the range of
doubles are answered without computing the power. -/
def ofDecimal (digits : Nat) (exponent : Int) : Float :=
  let size : Int := (Nat.log2 digits : Int) / 4
  if digits = 0 then 0
  else if 400 < exponent + size then Float.ofScientific 1 false 400
  else if exponent < -400 - 2 * (size + 1) then 0
  else if 0 ≤ exponent then Float.ofScientific digits false exponent.toNat
  else Float.ofScientific digits true (-exponent).toNat

/-- A numeral as the nearest double. -/
def Scaled.toFloat (numeral : Scaled) : Float :=
  if numeral.hexadecimal then
    let size : Int := Nat.log2 numeral.digits
    if numeral.digits = 0 then 0
    else if 1100 < numeral.exponent + size then Float.ofScientific 1 false 400
    else if numeral.exponent + size < -1200 then 0
    else if 0 ≤ numeral.exponent then
      Float.ofScientific (numeral.digits * Nat.pow 2 numeral.exponent.toNat) false 0
    else
      Float.ofScientific (numeral.digits * Nat.pow 5 (-numeral.exponent).toNat) true
        (-numeral.exponent).toNat
  else ofDecimal numeral.digits numeral.exponent

/-- Whether a numeral other than zero is too small for a normal double and is not itself a double.
A numeral that rounds to the least normal double with an unbounded exponent is large enough. -/
def Scaled.underflows (numeral : Scaled) : Bool :=
  let base : Nat := if numeral.hexadecimal then 2 else 10
  let size : Int := Nat.log2 numeral.digits
  if numeral.digits = 0 then false
  else if numeral.exponent < -2000 - size then true
  else if 2000 < numeral.exponent then false
  else
    let top := numeral.digits * Nat.pow base numeral.exponent.toNat
    let bottom := Nat.pow base (-numeral.exponent).toNat
    let tiny := top * Nat.pow 2 1076 < (Nat.pow 2 54 - 1) * bottom
    let exact := top * Nat.pow 2 1074 % bottom = 0
    tiny && !exact

/-- The digits of a numeral around its point, read with `digit?`: the integer they form, how many
stand after the point, whether there are any, and the rest of the text. -/
def readMantissa (base : Nat) (digit? : UInt8 → Option Nat) (text : Bytes) :
    Nat × Nat × Bool × Bytes :=
  let value := fun (start : Nat) (digits : Bytes) =>
    digits.foldl (fun total byte => base * total + (digit? byte).getD 0) start
  let isDigit := fun byte => (digit? byte).isSome
  let whole := text.takeWhile isDigit
  match text.dropWhile isDigit with
  | 46 :: rest =>
    let fraction := rest.takeWhile isDigit
    if whole.isEmpty && fraction.isEmpty then (0, 0, false, text)
    else (value (value 0 whole) fraction, fraction.length, true, rest.dropWhile isDigit)
  | rest => (value 0 whole, 0, !whole.isEmpty, rest)

/-- The exponent at the start of a text, after one of the letters `upper` and `lower`; zero if there
is none. -/
def readExponent (upper lower : UInt8) : Bytes → Int
  | byte :: text =>
    if byte = upper || byte = lower then
      let (negative, rest) := readSign text
      Binary64.signed negative (Text.numeralValue (rest.takeWhile Text.isDigit))
    else 0
  | [] => 0

/-- A digit as a number, if the byte is one. -/
def digit? (byte : UInt8) : Option Nat :=
  if Text.isDigit byte then some (Text.digitValue byte) else none

def leadingDecimal? (text : Bytes) : Option Scaled :=
  let (digits, places, found, rest) := readMantissa 10 digit? text
  if found then some ⟨false, digits, readExponent 69 101 rest - places⟩ else none

def leadingHexadecimal? : Bytes → Option Scaled
  | 48 :: letter :: text =>
    if letter = 88 || letter = 120 then
      let (digits, places, found, rest) := readMantissa 16 Text.hexValue? text
      if found then some ⟨true, digits, readExponent 80 112 rest - 4 * places⟩ else none
    else none
  | _ => none

/-- Reads a double: a decimal or hexadecimal numeral, `inf` or `nan` in any case. -/
def readDouble (text : Bytes) : Except NumeralFault Binary64 :=
  let (negative, rest) := readSign ((Text.upToNul text).dropWhile isSpace)
  let apply := fun (value : Binary64) => if negative then value.negate else value
  let name := (rest.take 3).map Text.toLower
  if name = utf8 "inf" then .ok (apply (.infinite false))
  else if name = utf8 "nan" then .ok (apply (.nan false))
  else
    match (leadingHexadecimal? rest).or (leadingDecimal? rest) with
    | none => .error .malformed
    | some numeral =>
      let value := Binary64.ofFloat numeral.toFloat
      if value = .infinite false || numeral.underflows then .error .outOfRange
      else .ok (apply value)

end Numeral

end SandboxClient
