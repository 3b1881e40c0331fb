import SandboxClient.Json.Basic
import SandboxClient.Text.Utf8
import SandboxClient.Decimal.Numeral

/-!
# Tokens of a JSON document

Splits a document into tokens.  Each token is the longest one possible at its place; where there is
none, the list ends with `malformed`.  A number without fraction and exponent is an integer if it
fits 64 bits, any other number is the nearest double, and a number beyond the doubles is kept as an
`overflow` until the reader decides whether a value may stand there.
-/

namespace SandboxClient

namespace Json

/-- One token of a document. -/
inductive Token where
  | openArray
  | closeArray
  | openObject
  | closeObject
  | comma
  | colon
  | text (text : Bytes)
  | value (value : Json)
  | overflow (numeral : Bytes)
  | malformed

/-- The byte that a letter after a backslash stands for. -/
def unescape? (letter : UInt8) : Option UInt8 :=
  if letter = 34 || letter = 92 || letter = 47 then some letter
  else if letter = 98 then some 8
  else if letter = 102 then some 12
  else if letter = 110 then some 10
  else if letter = 114 then some 13
  else if letter = 116 then some 9
  else none

/-- The number that four hexadecimal digits denote. -/
def codeUnit? (first second third fourth : UInt8) : Option Nat := do
  let a ← Text.hexValue? first
  let b ← Text.hexValue? second
  let c ← Text.hexValue? third
  let d ← Text.hexValue? fourth
  return ((a * 16 + b) * 16 + c) * 16 + d

/-- Whether a code unit is the first of a surrogate pair. -/
def isHighSurrogate (unit : Nat) : Bool :=
  0xD800 ≤ unit && unit ≤ 0xDBFF

/-- Whether a code unit is the second of a surrogate pair. -/
def isLowSurrogate (unit : Nat) : Bool :=
  0xDC00 ≤ unit && unit ≤ 0xDFFF

/-- Puts `bytes` in front of the contents of a string whose notation is `width` bytes longer. -/
def prepend (bytes : Bytes) (width : Nat) (read : Option (Bytes × Nat)) : Option (Bytes × Nat) :=
  read.map fun (contents, length) => (bytes ++ contents, width + length)

/-- The contents of a string whose opening quote has been read, and the length of its notation up to
and with the closing quote.  Surrogates must come in pairs. -/
def readString? : Bytes → Option (Bytes × Nat)
  | [] => none
  | 34 :: _ => some ([], 1)
  | 92 :: 117 :: a :: b :: c :: d :: 92 :: 117 :: e :: f :: g :: h :: rest =>
    match codeUnit? a b c d, codeUnit? e f g h with
    | some high, some low =>
      if isHighSurrogate high then
        if isLowSurrogate low then
          prepend (Utf8.encode (0x10000 + (high - 0xD800) * 0x400 + (low - 0xDC00))) 12
            (readString? rest)
        else none
      else if isLowSurrogate high then none
      else prepend (Utf8.encode high) 6 (readString? (92 :: 117 :: e :: f :: g :: h :: rest))
    | some unit, none =>
      if isHighSurrogate unit || isLowSurrogate unit then none
      else prepend (Utf8.encode unit) 6 (readString? (92 :: 117 :: e :: f :: g :: h :: rest))
    | none, _ => none
  | 92 :: 117 :: a :: b :: c :: d :: rest =>
    match codeUnit? a b c d with
    | some unit =>
      if isHighSurrogate unit || isLowSurrogate unit then none
      else prepend (Utf8.encode unit) 6 (readString? rest)
    | none => none
  | 92 :: letter :: rest =>
    match unescape? letter with
    | some byte => prepend [byte] 2 (readString? rest)
    | none => none
  | byte :: rest => if byte < 32 then none else prepend [byte] 1 (readString? rest)

/-- The notation of a number, in its parts. -/
structure Number where
  negative : Bool
  whole : Bytes
  fraction : Bytes
  /-- The letter, the sign and the digits of the exponent, if there is one. -/
  exponent : Option (UInt8 × Bytes × Bytes)

def Number.written (number : Number) : Bytes :=
  (if number.negative then [45] else []) ++ number.whole ++
    (if number.fraction.isEmpty then [] else 46 :: number.fraction) ++
    match number.exponent with
    | some (letter, sign, digits) => letter :: sign ++ digits
    | none => []

/-- The whole digits of a number: a zero, or digits that do not start with one. -/
def readWhole? (text : Bytes) : Option (Bytes × Bytes) :=
  match text with
  | 48 :: rest => some ([48], rest)
  | _ =>
    match text.takeWhile Text.isDigit with
    | [] => none
    | digits => some (digits, text.dropWhile Text.isDigit)

/-- The digits after a point, of which there must be one if there is a point. -/
def readFraction? : Bytes → Option (Bytes × Bytes)
  | 46 :: rest =>
    match rest.takeWhile Text.isDigit with
    | [] => none
    | digits => some (digits, rest.dropWhile Text.isDigit)
  | text => some ([], text)

/-- The exponent of a number, which must have a digit if its letter is there. -/
def readExponent? : Bytes → Option (Option (UInt8 × Bytes × Bytes))
  | letter :: rest =>
    if letter = 69 || letter = 101 then
      let sign := rest.take 1 |>.filter fun byte => byte == 43 || byte == 45
      match (rest.drop sign.length).takeWhile Text.isDigit with
      | [] => none
      | digits => some (some (letter, sign, digits))
    else some none
  | [] => some none

def readNumber? (text : Bytes) : Option Number := do
  let negative := text.head? = some 45
  let (whole, rest) ← readWhole? (if negative then text.tail else text)
  let (fraction, rest) ← readFraction? rest
  let exponent ← readExponent? rest
  return ⟨negative, whole, fraction, exponent⟩

def Number.toDouble (number : Number) : Binary64 :=
  let exponent :=
    match number.exponent with
    | some (_, sign, digits) => Binary64.signed (sign = [45]) (Text.numeralValue digits)
    | none => 0
  let value := Numeral.ofDecimal (Text.numeralValue (number.whole ++ number.fraction))
    (exponent - number.fraction.length)
  if number.negative then (Binary64.ofFloat value).negate else .ofFloat value

/-- Whether an integer fits a signed or an unsigned word of 64 bits. -/
def isWhole (value : Int) : Bool :=
  Binary64.isWord 64 value || Binary64.isWord 65 value && 0 ≤ value

def Number.token (number : Number) : Token :=
  let whole := Binary64.signed number.negative (Text.numeralValue number.whole)
  if number.fraction.isEmpty && number.exponent.isNone && isWhole whole then
    .value (.integer whole)
  else
    let value := number.toDouble
    match value with
    | .finite .. => .value (.double value)
    | _ => .overflow number.written

/-- The token of a name, if the text starts with it, and its length. -/
def readName? (name : Bytes) (value : Json) (text : Bytes) : Option (Token × Nat) :=
  if Text.startsWith name text then some (.value value, name.length) else none

/-- The token that a text starts with, which is not a blank, and its length. -/
def readToken? (first : UInt8) (rest : Bytes) : Option (Token × Nat) :=
  if first = 91 then some (.openArray, 1)
  else if first = 93 then some (.closeArray, 1)
  else if first = 123 then some (.openObject, 1)
  else if first = 125 then some (.closeObject, 1)
  else if first = 44 then some (.comma, 1)
  else if first = 58 then some (.colon, 1)
  else if first = 34 then
    match readString? rest with
    | some (contents, length) =>
      if Utf8.isValid contents then some (.text contents, length + 1) else none
    | none => none
  else if first = 116 then readName? (utf8 "true") (.boolean true) (first :: rest)
  else if first = 102 then readName? (utf8 "false") (.boolean false) (first :: rest)
  else if first = 110 then readName? (utf8 "null") .null (first :: rest)
  else (readNumber? (first :: rest)).map fun number =>
    (number.token, number.written.length)

/-- The tokens of a text whose first `skipped` bytes belong to the token before. -/
def tokensAfter (skipped : Nat) : Bytes → List Token
  | [] => []
  | byte :: rest =>
    match skipped with
    | skipped + 1 => tokensAfter skipped rest
    | 0 =>
      if Text.isBlank byte then tokensAfter 0 rest
      else
        match readToken? byte rest with
        | some (token, length) => token :: tokensAfter (length - 1) rest
        | none => [.malformed]

/-- The tokens of a document.  A byte order mark in front of it does not count. -/
def tokens (document : Bytes) : List Token :=
  tokensAfter 0 ((Text.dropPrefix? [0xEF, 0xBB, 0xBF] document).getD document)

end Json

end SandboxClient
