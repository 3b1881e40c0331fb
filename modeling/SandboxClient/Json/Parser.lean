import SandboxClient.Json.Token

/-!
# Reading JSON

A reader takes the tokens of a document one by one and keeps the arrays and objects it is inside of
on a stack.  Of two members with the same key the last one counts.  The first token that cannot stand
where it does decides the fault, so a number that overflows is reported only where a value may stand.
-/

namespace SandboxClient

namespace Json

/-- Why a text is not a JSON document. -/
inductive ParseFault where
  /-- What is said of a text that does not have the form of a document. -/
  | malformed (complaint : Bytes)
  /-- The numeral denotes a number beyond the doubles. -/
  | overflow (numeral : Bytes)

/-- The fault of a text of another form.  It does not tell the place. -/
def ParseFault.otherForm : ParseFault :=
  .malformed (utf8 "[json.exception.parse_error.101] parse error")

/-- An array or object that is being read: the items so far, last one first, or the members so far
and the key whose value is being read. -/
inductive Frame where
  | items (items : List Json)
  | members (members : Dictionary Json) (key : Bytes)

/-- What the reader has seen and what may come next. -/
inductive Reader where
  /-- A value comes next. -/
  | expectValue (stack : List Frame)
  /-- An array was opened: a value or its end comes next. -/
  | expectItemOrEnd (stack : List Frame)
  /-- An object was opened: a key or its end comes next. -/
  | expectKeyOrEnd (stack : List Frame)
  /-- A key comes next. -/
  | expectKey (members : Dictionary Json) (stack : List Frame)
  /-- A colon comes next. -/
  | expectColon (members : Dictionary Json) (key : Bytes) (stack : List Frame)
  /-- An item was read: a comma or the end of the array comes next. -/
  | afterItem (items : List Json) (stack : List Frame)
  /-- A member was read: a comma or the end of the object comes next. -/
  | afterMember (members : Dictionary Json) (stack : List Frame)
  /-- The document is complete. -/
  | finished (value : Json)

/-- Puts a complete value where it belongs. -/
def Reader.complete (value : Json) : List Frame → Reader
  | [] => .finished value
  | .items items :: stack => .afterItem (value :: items) stack
  | .members members key :: stack => .afterMember (Dictionary.insert members key value) stack

/-- Takes a token where a value may stand. -/
def Reader.takeValue (stack : List Frame) : Token → Except ParseFault Reader
  | .openArray => .ok (.expectItemOrEnd stack)
  | .openObject => .ok (.expectKeyOrEnd stack)
  | .text text => .ok (.complete (.string text) stack)
  | .value value => .ok (.complete value stack)
  | .overflow numeral => .error (.overflow numeral)
  | _ => .error .otherForm

def Reader.step : Reader → Token → Except ParseFault Reader
  | .expectItemOrEnd stack, .closeArray => .ok (.complete (.array []) stack)
  | .expectItemOrEnd stack, token => Reader.takeValue (.items [] :: stack) token
  | .expectValue stack, token => Reader.takeValue stack token
  | .expectKeyOrEnd stack, .closeObject => .ok (.complete (.object []) stack)
  | .expectKeyOrEnd stack, .text key => .ok (.expectColon [] key stack)
  | .expectKey members stack, .text key => .ok (.expectColon members key stack)
  | .expectColon members key stack, .colon => .ok (.expectValue (.members members key :: stack))
  | .afterItem items stack, .comma => .ok (.expectValue (.items items :: stack))
  | .afterItem items stack, .closeArray => .ok (.complete (.array items.reverse) stack)
  | .afterMember members stack, .comma => .ok (.expectKey members stack)
  | .afterMember members stack, .closeObject => .ok (.complete (.object members) stack)
  | _, _ => .error .otherForm

def Reader.run : Reader → List Token → Except ParseFault Json
  | .finished value, [] => .ok value
  | _, [] => .error .otherForm
  | reader, token :: tokens =>
    match reader.step token with
    | .ok next => next.run tokens
    | .error fault => .error fault

def parse (document : Bytes) : Except ParseFault Json :=
  (Reader.expectValue []).run (tokens document)

end Json

end SandboxClient
