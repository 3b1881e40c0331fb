import SandboxClient.Program
import SandboxClient.Json.Parser
import SandboxClient.Observation

/-!
# HTTP exchanges

Carries a request over HTTP: encodes it into a transfer, performs the transfer and reads the response.
Every outcome other than a response with a JSON body and a status of the two-hundreds is a failed call
under the method and address of the request, except for a number that exceeds the doubles.
-/

namespace SandboxClient

namespace Exchange

def logger : Bytes := utf8 "rock.transport"

/-- The bound of setting up a connection, in milliseconds. -/
def defaultConnectTimeout : Int := 300000

/-- The result code of a transfer that ran into its timeout. -/
def timedOut : Int := 28

def failure (request : Request) (detail : Bytes) : Error :=
  .call request.method request.url detail

/-- The body of a post, or the failure of one that is not UTF-8. -/
def encodeBody (method url : Bytes) (body : Json) : Except Error Bytes :=
  match body.document with
  | .ok text => .ok text
  | .error error =>
    .error (.call method url (utf8 "cannot encode request body: " ++ error.message))

/-- The header lines of a request: what is sent and accepted, then the headers in order. -/
def headerLines (request : Request) : List Bytes :=
  let sent :=
    match request.payload with
    | .post _ => [utf8 "Content-Type: application/json"]
    | _ => []
  sent ++ [utf8 "Accept: application/json"] ++
    request.headers.map fun header => Text.upToNul (header.1 ++ utf8 ": " ++ header.2)

/-- The parts of a form.  Names and field values end at a zero byte, the content of a file does not. -/
def formParts (fields : Dictionary Bytes) (file : FilePart) : List FormPart :=
  fields.map (fun field => { name := Text.upToNul field.1, data := Text.upToNul field.2 }) ++ [{
    name := Text.upToNul file.fieldName
    data := file.content
    fileName := Text.upToNul file.fileName
    contentType := Text.upToNul file.contentType }]

def transferOf (connectTimeout : Int) (request : Request) (content : TransferContent) : Transfer where
  url := Text.upToNul request.url
  headerLines := headerLines request
  timeout := request.timeout
  connectTimeout := connectTimeout
  content := content

/-- At most 512 bytes of a body. -/
def excerpt (body : Bytes) : Bytes :=
  if body.length ≤ 512 then body else body.take 512 ++ utf8 "..."

/-- Reads the body of a response. -/
def decodeBody (request : Request) (body : Bytes) : Except Error Json :=
  match Json.parse body with
  | .ok value => .ok value
  | .error (.overflow numeral) => .error (.numberOverflow numeral)
  | .error (.malformed complaint) =>
    .error (failure request
      (utf8 "invalid JSON response (" ++ complaint ++ utf8 "): " ++ excerpt body))

def decode (request : Request) (outcome : TransferOutcome) : Except Error Json :=
  if outcome.resultCode = timedOut then
    .error (failure request
      (utf8 "timed out after " ++ Text.integer request.timeout ++ utf8 "ms"))
  else if outcome.resultCode ≠ 0 then
    let text := Text.upToNul outcome.errorText
    .error (failure request (if text.isEmpty then outcome.resultText else text))
  else
    let body := outcome.chunks.flatten
    if outcome.status < 200 ∨ 300 ≤ outcome.status then
      .error (failure request
        (utf8 "HTTP " ++ Text.integer outcome.status ++ utf8 ": " ++ excerpt body))
    else decodeBody request body

/-- Obtains a resource, or fails the request. -/
def obtain (request : Request) (resource : TransferResource) (complaint : Bytes) : Attempt Unit := do
  let obtained ← (Program.act (.acquire resource) .done : Program Bool)
  if !obtained then throw (failure request complaint)

def encode (request : Request) : Attempt TransferContent := do
  match request.payload with
  | .post body => return .post (← .ofExcept (encodeBody request.method request.url body))
  | .get => return .get
  | .form fields file =>
    obtain request .form (utf8 "curl_mime_init failed")
    return .form (formParts fields file)

/-- Performs the transfer of a request, noting it if there is a logger. -/
def perform (logger? : Option Bytes) (connectTimeout : Int) (request : Request)
    (content : TransferContent) : Attempt TransferOutcome := do
  match logger? with
  | some logger =>
    Program.log logger .debug
      (request.method ++ utf8 " " ++ request.url ++ utf8 " (timeout=" ++
        Text.integer request.timeout ++ utf8 "ms)")
  | none => pure ()
  (Program.act (.transfer (transferOf connectTimeout request content)) .done :
    Program TransferOutcome)

def send (logger? : Option Bytes) (connectTimeout : Int) (request : Request) : Attempt Json := do
  obtain request .handle (utf8 "curl_easy_init failed")
  let content ← encode request
  let outcome ← perform logger? connectTimeout request content
  .ofExcept (decode request outcome)

end Exchange

/-- A program whose requests are carried over HTTP. -/
def Program.overHttp {Result : Type} : Program Result → Program Result
  | .done result => .done result
  | .stalled => .stalled
  | .act (.request request) next =>
    ((Exchange.send (some Exchange.logger) Exchange.defaultConnectTimeout request).outcome).bind
      fun outcome => (next outcome).overHttp
  | .act action next => .act action fun answer => (next answer).overHttp

end SandboxClient
