import SandboxClient.Json.Basic

/-!
# Requests and transfers

A request is one call to the sandbox service: an address, headers, a timeout and a payload.  A
transfer is the same call one layer down, with the header lines, the body and the form parts as they
go over the wire.
-/

namespace SandboxClient

/-- A file in a form. -/
structure FilePart where
  fieldName : Bytes := utf8 "file"
  fileName : Bytes := []
  content : Bytes := []
  contentType : Bytes := utf8 "application/octet-stream"
  deriving DecidableEq, Repr

/-- What a request carries. -/
inductive Payload where
  | post (body : Json)
  | get
  | form (fields : Dictionary Bytes) (file : FilePart)

/-- One call to the service.  The timeout is in milliseconds. -/
structure Request where
  url : Bytes
  headers : Dictionary Bytes
  timeout : Int
  payload : Payload

def Request.method (request : Request) : Bytes :=
  match request.payload with
  | .post _ => utf8 "POST"
  | .get => utf8 "GET"
  | .form _ _ => utf8 "POST"

structure FormPart where
  name : Bytes
  data : Bytes
  fileName : Bytes := []
  contentType : Bytes := []
  deriving DecidableEq, Repr

inductive TransferContent where
  | post (body : Bytes)
  | get
  | form (parts : List FormPart)
  deriving DecidableEq, Repr

/-- One HTTP exchange as it is handed to the transfer library.  Timeouts are in milliseconds. -/
structure Transfer where
  url : Bytes
  headerLines : List Bytes
  timeout : Int
  connectTimeout : Int
  content : TransferContent
  deriving DecidableEq, Repr

/-- How an exchange ended: the result code of the transfer library, the error text that it wrote, its words
for the result code, the pieces of the body in the order they arrived, and the HTTP status. -/
structure TransferOutcome where
  resultCode : Int := 0
  errorText : Bytes := []
  resultText : Bytes := []
  chunks : List Bytes := []
  status : Int := 200
  deriving DecidableEq, Repr

end SandboxClient
