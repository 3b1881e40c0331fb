/-!
# Byte strings

Every text the client handles is a list of bytes: commands, outputs and file contents need not be
UTF-8.  This file holds the operations on such texts that the rest of the library is written in:
literals, cutting at a zero byte, trimming, searching, and decimal numerals of integers.
-/

namespace SandboxClient

/-- A text, as the bytes it is made of. -/
abbrev Bytes := List UInt8

def utf8 (literal : String) : Bytes :=
  literal.toList.flatMap String.utf8EncodeChar

namespace Text

/-- The part of a text before its first zero byte. -/
def upToNul (text : Bytes) : Bytes :=
  text.takeWhile (· != 0)

/-- Space, tab, carriage return and line feed. -/
def isBlank (byte : UInt8) : Bool :=
  byte == 32 || byte == 9 || byte == 13 || byte == 10

/-- A text without the blanks it starts with. -/
def trimLeft (text : Bytes) : Bytes :=
  text.dropWhile isBlank

/-- A text without the blanks it ends with. -/
def trimRight (text : Bytes) : Bytes :=
  (text.reverse.dropWhile isBlank).reverse

/-- A text without the blanks around it. -/
def trim (text : Bytes) : Bytes :=
  trimRight (trimLeft text)

/-- The text after a leading `start`, if the text starts with it. -/
def dropPrefix? : (start text : Bytes) → Option Bytes
  | [], text => some text
  | _ :: _, [] => none
  | first :: start, byte :: text => if first = byte then dropPrefix? start text else none

def startsWith (start text : Bytes) : Bool :=
  (dropPrefix? start text).isSome

/-- Whether `part` occurs somewhere in a text. -/
def contains (part : Bytes) : Bytes → Bool
  | [] => startsWith part []
  | byte :: text => startsWith part (byte :: text) || contains part text

/-- The pieces of a text between the occurrences of `separator`; there is always at least one. -/
def splitOn (separator : UInt8) : Bytes → List Bytes
  | [] => [[]]
  | byte :: text =>
    if byte = separator then [] :: splitOn separator text
    else
      match splitOn separator text with
      | [] => [[byte]]
      | piece :: pieces => (byte :: piece) :: pieces

/-- The texts of a list with `separator` between each two. -/
def joinWith (separator : Bytes) : List Bytes → Bytes
  | [] => []
  | [text] => text
  | text :: next :: rest => text ++ separator ++ joinWith separator (next :: rest)

/-- An ASCII letter in lower case; any other byte is itself. -/
def toLower (byte : UInt8) : UInt8 :=
  if 65 ≤ byte && byte ≤ 90 then byte + 32 else byte

/-- The ASCII digits. -/
def isDigit (byte : UInt8) : Bool :=
  48 ≤ byte && byte ≤ 57

/-- The number an ASCII digit stands for. -/
def digitValue (byte : UInt8) : Nat :=
  byte.toNat - 48

/-- The ASCII digit for a number below ten. -/
def digitOf (value : Nat) : UInt8 :=
  UInt8.ofNat (48 + value)

/-- The number a run of ASCII digits denotes; leading zeros do not count. -/
def numeralValue (digits : Bytes) : Nat :=
  digits.foldl (fun value digit => 10 * value + digitValue digit) 0

/-- The decimal numeral of a natural number, without leading zeros. -/
def decimal (value : Nat) : Bytes :=
  if value < 10 then [digitOf value]
  else decimal (value / 10) ++ [digitOf (value % 10)]

def integer : Int → Bytes
  | .ofNat value => decimal value
  | .negSucc value => utf8 "-" ++ decimal (value + 1)

/-- One hexadecimal digit, from the sixteen digits given. -/
def hexDigit (digits : Bytes) (value : Nat) : UInt8 :=
  digits.getD (value % 16) 48

/-- The sixteen digits with letters in lower case. -/
def lowerHexDigits : Bytes := utf8 "0123456789abcdef"

/-- The sixteen digits with letters in upper case. -/
def upperHexDigits : Bytes := utf8 "0123456789ABCDEF"

/-- A byte as two hexadecimal digits. -/
def hexByte (digits : Bytes) (byte : UInt8) : Bytes :=
  [hexDigit digits (byte.toNat / 16), hexDigit digits byte.toNat]

/-- The number an ASCII hexadecimal digit of either case stands for. -/
def hexValue? (byte : UInt8) : Option Nat :=
  if isDigit byte then some (digitValue byte)
  else if 65 ≤ byte && byte ≤ 70 then some (byte.toNat - 55)
  else if 97 ≤ byte && byte ≤ 102 then some (byte.toNat - 87)
  else none

/-- The lines of a text.  A line feed ends a line, so text after the last one is a line only when it
is not empty. -/
def lines (text : Bytes) : List Bytes :=
  let pieces := splitOn 10 text
  if pieces.getLast? = some [] then pieces.dropLast else pieces

end Text

end SandboxClient
