import SandboxClient.StatusCode
import SandboxClient.Text.Utf8
import SandboxClient.Decimal.Numeral

/-!
# Errors

Every way in which an operation of the client can fail, with the words it is reported in.  A failed
remote call keeps the operation, the address and the detail it failed with, and belongs to the class
its status code names.
-/

namespace SandboxClient

/-- The class of a failed remote call. -/
inductive RemoteClass where
  | plain
  | badRequest
  | internal
  | command
  deriving DecidableEq, Repr

/-- A remote call that failed on the way, or that the service rejected. -/
structure RemoteFailure where
  kind : RemoteClass := .plain
  operation : Bytes
  url : Bytes
  detail : Bytes
  /-- The code that the service reported, zero if it reported none. -/
  code : Int := 0
  deriving DecidableEq, Repr

/-- Why an operation failed. -/
inductive Error where
  /-- The caller supplied a bad configuration or argument. -/
  | invalidParameter (message : Bytes)
  /-- The operation needs a started sandbox. -/
  | notStarted (operation : Bytes)
  /-- The sandbox was not seen alive in time. -/
  | startTimeout (sandboxId : Bytes) (seconds : Int)
  | remote (rejection : RemoteFailure)
  /-- Any other error that carries a status code. -/
  | coded (message : Bytes) (code : Int)
  /-- A text in a JSON value is not UTF-8. -/
  | unencodable (fault : Utf8.Fault)
  /-- A number in a JSON document exceeds the doubles. -/
  | numberOverflow (numeral : Bytes)
  | badNumeral (kind : NumeralKind) (fault : NumeralFault)
  /-- An index is not below the size of the list it points into. -/
  | noSuchIndex (index size : Nat)
  /-- A local path could not be looked up. -/
  | badPath (reason path : Bytes)
  | programming (message : Bytes)
  | failure (message : Bytes)
  deriving DecidableEq, Repr

namespace Error

def encodingText : Utf8.Fault → Bytes
  | .invalid index byte =>
    utf8 "[json.exception.type_error.316] invalid UTF-8 byte at index " ++ Text.decimal index ++
      utf8 ": 0x" ++ Text.hexByte Text.upperHexDigits byte
  | .incomplete last =>
    utf8 "[json.exception.type_error.316] incomplete UTF-8 string; last byte: 0x" ++
      Text.hexByte Text.upperHexDigits last

/-- The name of the reader that refused a numeral. -/
def numeralText : NumeralKind → Bytes
  | .integer => utf8 "stoi"
  | .size => utf8 "stoul"
  | .real => utf8 "stod"

/-- The full words of an error. -/
def text : Error → Bytes
  | .invalidParameter message => message
  | .notStarted operation => utf8 "Sandbox not started: cannot " ++ operation
  | .startTimeout sandboxId seconds =>
    utf8 "Failed to start sandbox " ++ sandboxId ++ utf8 " within " ++ Text.integer seconds ++
      utf8 "s"
  | .remote rejection =>
    utf8 "Failed to " ++ rejection.operation ++ utf8 " (" ++ rejection.url ++ utf8 "): " ++
      rejection.detail
  | .coded message _ => message
  | .unencodable fault => encodingText fault
  | .numberOverflow numeral =>
    utf8 "[json.exception.out_of_range.406] number overflow parsing '" ++ numeral ++ utf8 "'"
  | .badNumeral kind _ => numeralText kind
  | .noSuchIndex index size =>
    utf8 "vector::_M_range_check: __n (which is " ++ Text.decimal index ++
      utf8 ") >= this->size() (which is " ++ Text.decimal size ++ utf8 ")"
  | .badPath reason path =>
    utf8 "filesystem error: status: " ++ reason ++ utf8 " [" ++ path ++ utf8 "]"
  | .programming message => message
  | .failure message => message

/-- The words of an error as they are reported: a zero byte ends them. -/
def message (error : Error) : Bytes :=
  Text.upToNul error.text

/-- The status code of an error; errors that do not come from this client have none. -/
def code? : Error → Option Int
  | .invalidParameter _ => some StatusCode.badRequest
  | .notStarted _ => some 0
  | .startTimeout _ _ => some 0
  | .remote rejection => some rejection.code
  | .coded _ code => some code
  | _ => none

/-- Whether an error comes from this client rather than from the libraries below it. -/
def isOwn (error : Error) : Bool :=
  error.code?.isSome

/-- The failure of a remote call for a reason that carries no status code. -/
def call (operation url detail : Bytes) : Error :=
  .remote { operation, url, detail }

end Error

/-- The class of a failed call by its status code. -/
def RemoteClass.ofCode (code : Int) : RemoteClass :=
  if StatusCode.isClientError code then .badRequest
  else if StatusCode.isServerError code then .internal
  else if StatusCode.isCommandError code then .command
  else .plain

/-- The failure that a status code stands for; success codes and zero stand for none. -/
def failureOfCode? (code : Int) (operation url detail : Bytes) : Option RemoteFailure :=
  if code = 0 || StatusCode.isSuccess code then none
  else some { kind := RemoteClass.ofCode code, operation, url, detail, code }

end SandboxClient
