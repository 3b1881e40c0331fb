import SandboxClient.Dictionary
import SandboxClient.Decimal.Binary64

/-!
# JSON values

The values exchanged with the sandbox service.  Whole numbers and doubles are kept apart, because
the two are written and converted differently.  Members of anything but an object are missing.
-/

namespace SandboxClient

/-- A JSON value.  A number written without fraction and exponent is an `integer`. -/
inductive Json where
  | null
  | boolean (value : Bool)
  | integer (value : Int)
  | double (value : Binary64)
  | string (text : Bytes)
  | array (items : List Json)
  | object (members : List (Bytes × Json))

namespace Json

instance : Inhabited Json := ⟨.null⟩

def strings (texts : List Bytes) : Json :=
  .array (texts.map .string)

/-- An object of texts. -/
def stringMembers (fields : Dictionary Bytes) : Json :=
  .object (fields.map fun field => (field.1, .string field.2))

/-- The member of an object at a key, if the value is an object that has one. -/
def member? (value : Json) (key : Bytes) : Option Json :=
  match value with
  | .object members => Dictionary.get? members key
  | _ => none

/-- An object with a member added or replaced; any other value is left alone. -/
def withMember (value : Json) (key : Bytes) (member : Json) : Json :=
  match value with
  | .object members => .object (Dictionary.insert members key member)
  | _ => value

def isObject : Json → Bool
  | .object _ => true
  | _ => false

/-- The text of a member, if it is a string; otherwise the empty text. -/
def text (value : Json) (key : Bytes) : Bytes :=
  match value.member? key with
  | some (.string text) => text
  | _ => []

/-- An integer as a signed 32-bit word: integers wrap, doubles lose their fraction. -/
def toInt32? : Json → Option Int32
  | .integer value => some (Int32.ofInt value)
  | .double value => some (Int32.ofInt value.toInt32)
  | _ => none

def toDouble? : Json → Option Binary64
  | .integer value => some (.ofFloat (Float.ofInt value))
  | .double value => some value
  | _ => none

/-- An optional exit code: null stands for none. -/
def ofExitCode : Option Int32 → Json
  | some code => .integer code.toInt
  | none => .null

end Json

end SandboxClient
