import SandboxClient.Text

/-!
# UTF-8

A checker for UTF-8 that reports where a byte string stops being UTF-8.  The check is a machine that
remembers how many continuation bytes are still owed and which range the next one has to lie in; the
range of the first continuation byte excludes overlong forms, surrogates and code points above
U+10FFFF, so each of these is reported at the byte that makes it so.
-/

namespace SandboxClient

namespace Utf8

/-- Why a byte string is not UTF-8. -/
inductive Fault where
  /-- The byte at this index cannot continue the text before it. -/
  | invalid (index : Nat) (byte : UInt8)
  /-- The text ends inside a character, after this byte. -/
  | incomplete (last : UInt8)
  deriving DecidableEq, Repr

/-- What the bytes read so far still require: `owed` continuation bytes, of which the next lies
between `low` and `high`. -/
structure Expectation where
  owed : Nat
  low : UInt8
  high : UInt8
  deriving DecidableEq, Repr

/-- Nothing is owed: the text may end here. -/
def Expectation.none : Expectation := ⟨0, 0x80, 0xBF⟩

/-- The expectation after the first byte of a character. -/
def afterLead (byte : UInt8) : Option Expectation :=
  if byte ≤ 0x7F then some .none
  else if 0xC2 ≤ byte && byte ≤ 0xDF then some ⟨1, 0x80, 0xBF⟩
  else if byte = 0xE0 then some ⟨2, 0xA0, 0xBF⟩
  else if byte = 0xED then some ⟨2, 0x80, 0x9F⟩
  else if 0xE1 ≤ byte && byte ≤ 0xEF then some ⟨2, 0x80, 0xBF⟩
  else if byte = 0xF0 then some ⟨3, 0x90, 0xBF⟩
  else if 0xF1 ≤ byte && byte ≤ 0xF3 then some ⟨3, 0x80, 0xBF⟩
  else if byte = 0xF4 then some ⟨3, 0x80, 0x8F⟩
  else Option.none

/-- The expectation after one more byte, if the byte is possible. -/
def Expectation.step (expectation : Expectation) (byte : UInt8) : Option Expectation :=
  match expectation.owed with
  | 0 => afterLead byte
  | owed + 1 =>
    if expectation.low ≤ byte && byte ≤ expectation.high then some ⟨owed, 0x80, 0xBF⟩
    else Option.none

/-- Checks the rest of a text from its byte number `index` on; `last` is the byte before it. -/
def faultFrom (index : Nat) (expectation : Expectation) (last : UInt8) : Bytes → Option Fault
  | [] => if expectation.owed = 0 then .none else some (.incomplete last)
  | byte :: text =>
    match expectation.step byte with
    | .none => some (.invalid index byte)
    | some next => faultFrom (index + 1) next byte text

/-- The first reason why a text is not UTF-8, if there is one. -/
def fault? (text : Bytes) : Option Fault :=
  faultFrom 0 .none 0 text

def isValid (text : Bytes) : Bool :=
  (fault? text).isNone

def encode (codePoint : Nat) : Bytes :=
  if codePoint < 0x80 then [UInt8.ofNat codePoint]
  else if codePoint < 0x800 then
    [UInt8.ofNat (0xC0 + codePoint / 0x40), UInt8.ofNat (0x80 + codePoint % 0x40)]
  else if codePoint < 0x10000 then
    [UInt8.ofNat (0xE0 + codePoint / 0x1000), UInt8.ofNat (0x80 + codePoint / 0x40 % 0x40),
      UInt8.ofNat (0x80 + codePoint % 0x40)]
  else
    [UInt8.ofNat (0xF0 + codePoint / 0x40000), UInt8.ofNat (0x80 + codePoint / 0x1000 % 0x40),
      UInt8.ofNat (0x80 + codePoint / 0x40 % 0x40), UInt8.ofNat (0x80 + codePoint % 0x40)]

end Utf8

end SandboxClient
