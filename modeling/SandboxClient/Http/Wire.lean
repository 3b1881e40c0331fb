import SandboxClient.Http.Request

/-!
# Transfers on the wire

The bytes that a transfer sends over a connection and the reading of the bytes that come back.  A
connection carries one transfer, so the body of a response ends where the connection does.
-/

namespace SandboxClient

namespace Wire

/-- The end of a line. -/
def newline : Bytes := utf8 "\r\n"

/-! ## Places -/

/-- Where a transfer goes. -/
structure Target where
  host : Bytes
  /-- The number of the service at the host. -/
  service : Bytes
  /-- The path with its query. -/
  path : Bytes
  deriving DecidableEq, Repr

/-- The target of an address of the plain scheme.  Without a number the service is 80. -/
def Target.ofUrl? (url : Bytes) : Option Target :=
  match Text.dropPrefix? (utf8 "http://") url with
  | none => none
  | some rest =>
    let authority := rest.takeWhile fun byte => byte != 47 && byte != 63
    let path := rest.drop authority.length
    let service := (authority.dropWhile (· != 58)).drop 1
    some {
      host := authority.takeWhile (· != 58)
      service := if service.isEmpty then utf8 "80" else service
      path := if path.head? = some 47 then path else utf8 "/" ++ path }

/-! ## What is sent -/

/-- A text between double quotes. -/
def quoted (text : Bytes) : Bytes :=
  utf8 "\"" ++
    text.flatMap (fun byte => if byte = 34 || byte = 92 then [92, byte] else [byte]) ++ utf8 "\""

def partBytes (boundary : Bytes) (part : FormPart) : Bytes :=
  let file := if part.fileName.isEmpty then [] else utf8 "; filename=" ++ quoted part.fileName
  let type :=
    if part.contentType.isEmpty then [] else utf8 "Content-Type: " ++ part.contentType ++ newline
  utf8 "--" ++ boundary ++ newline ++
  utf8 "Content-Disposition: form-data; name=" ++ quoted part.name ++ file ++ newline ++
  type ++ newline ++ part.data ++ newline

def bodyBytes (boundary : Bytes) : TransferContent → Bytes
  | .post body => body
  | .get => []
  | .form parts => parts.flatMap (partBytes boundary) ++ utf8 "--" ++ boundary ++ utf8 "--" ++ newline

def methodName : TransferContent → Bytes
  | .get => utf8 "GET"
  | _ => utf8 "POST"

/-- The header lines that tell how a body is to be read. -/
def framing (boundary : Bytes) (content : TransferContent) : List Bytes :=
  let length := utf8 "Content-Length: " ++ Text.decimal (bodyBytes boundary content).length
  match content with
  | .get => []
  | .post _ => [length]
  | .form _ => [length, utf8 "Content-Type: multipart/form-data; boundary=" ++ boundary]

/-- The bytes of a transfer to a target.  The boundary must not occur in the parts of a form. -/
def requestBytes (target : Target) (boundary : Bytes) (transfer : Transfer) : Bytes :=
  let start := methodName transfer.content ++ utf8 " " ++ target.path ++ utf8 " HTTP/1.0"
  let host := utf8 "Host: " ++ target.host ++ utf8 ":" ++ target.service
  let lines :=
    [start, host, utf8 "Connection: close"] ++ framing boundary transfer.content ++
      transfer.headerLines
  lines.flatMap (· ++ newline) ++ newline ++ bodyBytes boundary transfer.content

/-! ## What comes back -/

/-- The part of a text behind its first empty line, if there is one. -/
def afterHeaders? : Bytes → Option Bytes
  | [] => none
  | byte :: text =>
    match Text.dropPrefix? (newline ++ newline) (byte :: text) with
    | some body => some body
    | none => afterHeaders? text

/-- The number in the first line of a response. -/
def status? (response : Bytes) : Option Int :=
  match Text.dropPrefix? (utf8 "HTTP/") response with
  | none => none
  | some rest =>
    let digits := ((rest.dropWhile (· != 32)).drop 1).takeWhile Text.isDigit
    if digits.isEmpty then none else some (Text.numeralValue digits)

/-- Why there is no response. -/
inductive Fault where
  | unsupportedScheme
  | unknownHost
  | noConnection
  | timedOut
  | noResponse
  deriving DecidableEq, Repr

/-- The result code of a transfer without a response. -/
def Fault.resultCode : Fault → Int
  | .unsupportedScheme => 1
  | .unknownHost => 6
  | .noConnection => 7
  | .timedOut => 28
  | .noResponse => 52

def Fault.text : Fault → Bytes
  | .unsupportedScheme => utf8 "Unsupported protocol"
  | .unknownHost => utf8 "Could not resolve host"
  | .noConnection => utf8 "Could not connect to server"
  | .timedOut => utf8 "Timeout was reached"
  | .noResponse => utf8 "Server returned nothing"

/-- The outcome of a transfer without a response. -/
def Fault.outcome (fault : Fault) : TransferOutcome where
  resultCode := fault.resultCode
  resultText := fault.text

/-- The outcome of a transfer that received the given bytes. -/
def outcomeOf (response : Bytes) : TransferOutcome :=
  match status? response, afterHeaders? response with
  | some status, some body => { chunks := [body], status }
  | _, _ => Fault.noResponse.outcome

end Wire

end SandboxClient
