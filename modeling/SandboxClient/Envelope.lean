import SandboxClient.Observation

/-!
# Response envelopes

The service wraps each result into an envelope that says whether the call succeeded.  Opening an
envelope yields the result of a call that succeeded, and otherwise a failure whose class is named by
the code the service reported, with the whole response as the detail.
-/

namespace SandboxClient

namespace Envelope

def isSuccess (response : Json) : Bool :=
  response.isObject && response.text (utf8 "status") = utf8 "Success"

/-- The result of a successful call, an empty object if the service sent none. -/
def result (response : Json) : Json :=
  match response.member? (utf8 "result") with
  | none => .object []
  | some .null => .object []
  | some result => result

/-- The code that a response reports, zero if it reports none. -/
def code (response : Json) : Int :=
  match (response.member? (utf8 "result")).bind (·.member? (utf8 "code")) with
  | some (.integer code) => (Int32.ofInt code).toInt
  | _ => 0

/-- The failure of a call that a response rejects. -/
def rejection (operation url detail : Bytes) (code : Int) : Error :=
  .remote ((failureOfCode? code operation url detail).getD { operation, url, detail, code })

/-- The result of a call, or the failure that its response reports. -/
def unwrap (operation url : Bytes) (response : Json) : Except Error Json :=
  if isSuccess response then .ok (result response)
  else
    match response.document with
    | .ok detail => .error (rejection operation url detail (code response))
    | .error error => .error error

end Envelope

end SandboxClient
