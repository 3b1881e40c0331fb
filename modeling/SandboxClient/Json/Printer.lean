import SandboxClient.Json.Basic
import SandboxClient.Decimal.Layout
import SandboxClient.Text.Utf8

/-!
# Writing JSON

A JSON document is written without spaces, the members of an object in the order of its list.  A
string that is not UTF-8 has no written form, and the first such string in writing order is reported.
-/

namespace SandboxClient

namespace Json

/-- The characters that a string writes with a letter after a backslash. -/
def shortEscape? (byte : UInt8) : Option UInt8 :=
  if byte = 34 then some 34
  else if byte = 92 then some 92
  else if byte = 8 then some 98
  else if byte = 12 then some 102
  else if byte = 10 then some 110
  else if byte = 13 then some 114
  else if byte = 9 then some 116
  else none

/-- One byte of a string as it is written: quotes, backslashes and control characters are escaped. -/
def escape (byte : UInt8) : Bytes :=
  match shortEscape? byte with
  | some letter => [92, letter]
  | none => if byte < 32 then utf8 "\\u00" ++ Text.hexByte Text.lowerHexDigits byte else [byte]

/-- A string between quotes. -/
def quote (text : Bytes) : Except Utf8.Fault Bytes :=
  match Utf8.fault? text with
  | some fault => .error fault
  | none => .ok ([34] ++ text.flatMap escape ++ [34])

mutual

/-- The document of a value. -/
def render : Json → Except Utf8.Fault Bytes
  | .null => .ok (utf8 "null")
  | .boolean value => .ok (utf8 (if value then "true" else "false"))
  | .integer value => .ok (Text.integer value)
  | .double value => .ok (Decimal.Layout.json.render value)
  | .string text => quote text
  | .array items => do
    let texts ← renderItems items
    return [91] ++ Text.joinWith [44] texts ++ [93]
  | .object members => do
    let texts ← renderMembers members
    return [123] ++ Text.joinWith [44] texts ++ [125]

/-- The documents of the items of an array. -/
def renderItems : List Json → Except Utf8.Fault (List Bytes)
  | [] => .ok []
  | item :: items => do
    let text ← render item
    let texts ← renderItems items
    return text :: texts

/-- The members of an object, each with its key. -/
def renderMembers : List (Bytes × Json) → Except Utf8.Fault (List Bytes)
  | [] => .ok []
  | (key, value) :: members => do
    let name ← quote key
    let text ← render value
    let texts ← renderMembers members
    return (name ++ [58] ++ text) :: texts

end

end Json

end SandboxClient
