import SandboxClient.Text

/-!
# Process markers

A detached command is launched by a shell line that echoes the process number between two markers.
The number is read back from the leftmost place in the output where a start marker, at least one digit
and an end marker follow each other.
-/

namespace SandboxClient

namespace Detached

/-- The marker in front of a process number. -/
def startMarker : Bytes := utf8 "__ROCK_PID_START__"

/-- The marker behind a process number. -/
def endMarker : Bytes := utf8 "__ROCK_PID_END__"

/-- The digits of a marked number at the start of a text. -/
def markedDigits? (text : Bytes) : Option Bytes :=
  match Text.dropPrefix? startMarker text with
  | none => none
  | some rest =>
    let digits := rest.takeWhile Text.isDigit
    if digits.isEmpty then none
    else if Text.startsWith endMarker (rest.dropWhile Text.isDigit) then some digits
    else none

/-- The digits of the leftmost marked number in a text. -/
def firstMarked? : Bytes → Option Bytes
  | [] => none
  | byte :: text =>
    match markedDigits? (byte :: text) with
    | some digits => some digits
    | none => firstMarked? text

/-- The process number in the output of a launch.  A numeral beyond the signed 64-bit integers denotes
no process. -/
def processId? (output : Bytes) : Option Nat :=
  match firstMarked? output with
  | none => none
  | some digits =>
    let value := Text.numeralValue digits
    if value < Nat.pow 2 63 then some value else none

/-- The shell line that launches a command with its output in a file. -/
def launchLine (command file : Bytes) : Bytes :=
  utf8 "nohup " ++ command ++ utf8 " < /dev/null > " ++ file ++ utf8 " 2>&1 & echo " ++
    startMarker ++ utf8 "$!" ++ endMarker ++ utf8 ";disown"

end Detached

end SandboxClient
