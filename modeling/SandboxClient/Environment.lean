import SandboxClient.Text

/-!
# Environments

The environment of a process is a list of entries, each of which is the name of a variable, an equals
sign and its value.  The first entry of a name counts.  Names and values end at a zero byte, and there
is no variable without a name.
-/

namespace SandboxClient

/-- The entries of an environment. -/
abbrev Environment := List Bytes

namespace Environment

/-- What the entry of a variable starts with. -/
def label (name : Bytes) : Bytes :=
  Text.upToNul name ++ utf8 "="

/-- The value of a variable, if it is set. -/
def value? (environment : Environment) (name : Bytes) : Option Bytes :=
  if (Text.upToNul name).isEmpty then none
  else environment.findSome? (Text.dropPrefix? (label name))

/-- The value of a variable, or a fallback if it is not set. -/
def valueD (environment : Environment) (name fallback : Bytes) : Bytes :=
  (environment.value? name).getD fallback

/-- Whether a variable is set, be it to the empty text. -/
def isSet (environment : Environment) (name : Bytes) : Bool :=
  (environment.value? name).isSome

/-- Whether a text can be the name of a variable: it is not empty and has no equals sign. -/
def canName (name : Bytes) : Bool :=
  let text := Text.upToNul name
  !text.isEmpty && !text.contains 61

def entry (name value : Bytes) : Bytes :=
  label name ++ Text.upToNul value

/-- Sets a variable, whatever it was before. -/
def assign (environment : Environment) (name value : Bytes) : Environment :=
  if canName name then
    environment.filter (fun other => (Text.dropPrefix? (label name) other).isNone) ++
      [entry name value]
  else environment

/-- Sets a variable that is not set, and tells whether it did.  A variable that is set keeps its
value. -/
def define (environment : Environment) (name value : Bytes) : Environment × Bool :=
  if canName name && !environment.isSet name then (environment ++ [entry name value], true)
  else (environment, false)

end Environment

end SandboxClient
